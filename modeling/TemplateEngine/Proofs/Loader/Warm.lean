import TemplateEngine.Proofs.Loader.Coherence
import TemplateEngine.Proofs.Loader.Identity

/-!
# Warm caches

Loads of the same templates, whatever strategies and caches they go through, leave a
storage behind in which a cache holds nothing but what the templates compile to. All
loads after them give the same programs, or the same errors.
-/

namespace TemplateEngine
namespace Loader

/-- What earlier loads of the same templates leave behind. The loaders may use other
strategies and other caches, and in between texts may be compiled. -/
inductive Warms (l : Loader) (dirs : Set String) : Storage → Storage → Prop
  | refl (s) : Warms l dirs s s
  | load {s s'} (l' : Loader) (name : String) (stats : LoaderStats) : Warms l dirs s s' →
      l'.source = l.source → l'.compilation = l.compilation → l'.cache.Shared dirs →
      Warms l dirs s (l'.load name ⟨s', stats⟩).2.storage
  | loadText {s s'} (l' : Loader) (name text : String) (stats : LoaderStats) : Warms l dirs s s' →
      Warms l dirs s (l'.loadText name text ⟨s', stats⟩).2.storage

/-- The templates stay as they are while caches are filled. -/
def Steady (l : Loader) (dirs : Set String) (cold : Storage) : Prop :=
  ∀ s, l.Warms dirs cold s → ∀ name, l.source.resolve s name = l.source.resolve cold name

variable {l l' : Loader} {dirs : Set String} {cold s s' : Storage} {name : String}
  {result : Except Error Loaded}

/-- Compiling a text changes nothing but the count of identities. -/
theorem loadText_storage (l : Loader) (name text : String) (s : LoaderState) :
    (l.loadText name text s).2.storage.files = s.storage.files ∧
      (l.loadText name text s).2.storage.templates = s.storage.templates ∧
      (l.loadText name text s).2.storage.memory = s.storage.memory ∧
      s.storage.nextId ≤ (l.loadText name text s).2.storage.nextId := by
  unfold loadText
  rcases l.compile_cases name text s with ⟨e, s', -, eq, quiet⟩ | ⟨p, s', -, eq, quiet⟩
  · rw [eq]
    exact ⟨quiet.files, quiet.templates, quiet.memory, Nat.le_of_eq quiet.nextId.symm⟩
  · rw [eq]
    exact ⟨quiet.files, quiet.templates, quiet.memory, Nat.le_succ _⟩

theorem Warms.congr (h : l.Warms dirs cold s) (source : l'.source = l.source)
    (compilation : l'.compilation = l.compilation) : l'.Warms dirs cold s := by
  induction h with
  | refl => exact .refl _
  | load l' name stats _ same same' shared ih =>
    exact .load l' name stats ih (same.trans source.symm) (same'.trans compilation.symm) shared
  | loadText l' name text stats _ ih => exact .loadText l' name text stats ih

theorem Steady.congr (h : l.Steady dirs cold) (source : l'.source = l.source)
    (compilation : l'.compilation = l.compilation) : l'.Steady dirs cold := by
  intro s warm name
  rw [source]
  exact h s (warm.congr source.symm compilation.symm) name

theorem Warms.templates (h : l.Warms dirs cold s) : s.templates = cold.templates := by
  induction h with
  | refl => rfl
  | load l' name stats _ _ _ shared ih =>
    exact (l'.load_loads shared name ⟨_, stats⟩).templates.trans ih
  | loadText l' name text stats _ ih =>
    exact (l'.loadText_storage name text ⟨_, stats⟩).2.1.trans ih

/-- Templates in memory do not change by being loaded. -/
theorem steady_memory (source : l.source = .memory) : l.Steady dirs cold := by
  intro s warm name
  rw [source, Source.resolve, Source.resolve, warm.templates]

/-- The entry is what the template compiles to. -/
def Compiled (l : Loader) (cold : Storage) : EntryProperty := fun name _ p =>
  l.current cold name = .ok p

theorem current_congr (source : l'.source = l.source) (compilation : l'.compilation = l.compilation)
    (same : l.source.resolve s name = l.source.resolve cold name) :
    l'.current s name = l.current cold name := by
  unfold current
  rw [source, same]
  cases l.source.resolve cold name with
  | error e => rfl
  | ok source => exact compiled_congr compilation name source.text

theorem Warms.holds (h : l.Warms dirs cold s) (empty : cold.Cold dirs) (steady : l.Steady dirs cold) :
    s.Holds dirs (l.Compiled cold) := by
  induction h with
  | refl => exact empty.holds _
  | @load s l' name stats warm source compilation shared ih =>
    refine (l'.load_loads shared name ⟨s, stats⟩).holds ih (fun _ _ _ compiled => compiled) ?_
    intro text p resolved gives
    have current := (current_of_resolve resolved).trans gives
    rwa [current_congr source compilation (steady s warm name)] at current
  | @loadText s l' name text stats warm ih =>
    obtain ⟨files, -, memory, -⟩ := l'.loadText_storage name text ⟨s, stats⟩
    exact ⟨files ▸ ih.anchored, memory ▸ ih.memory, files ▸ ih.files⟩

theorem Warms.numbered (h : l.Warms dirs cold s) (empty : cold.Cold dirs) : s.Numbered := by
  induction h with
  | refl =>
    constructor
    · intro name entry kept
      rw [empty.memory] at kept
      cases kept
    · intro name name' entry entry' kept
      rw [empty.memory] at kept
      cases kept
  | @load s l' name stats _ _ _ shared ih => exact (l'.load_loads shared name ⟨s, stats⟩).numbered ih
  | @loadText s l' name text stats _ ih =>
    obtain ⟨-, -, memory, le⟩ := l'.loadText_storage name text ⟨s, stats⟩
    constructor
    · intro n entry kept
      rw [memory] at kept
      exact Nat.lt_of_lt_of_le (ih.below n entry kept) le
    · rw [memory]
      exact ih.distinct

/-- Whatever was loaded before, a load gives what the template compiles to. -/
theorem Warms.program (h : l.Warms dirs cold s) (empty : cold.Cold dirs) (steady : l.Steady dirs cold)
    (source : l'.source = l.source) (compilation : l'.compilation = l.compilation)
    (loads : l'.Loads dirs name s result s') :
    result.map Loaded.program = l.current cold name := by
  have same := current_congr source compilation (steady s h name)
  rw [← same]
  apply loads.program (h.holds empty steady)
  intro freshness p compiled _
  rw [same]
  exact compiled

/-- Two loads of a template give the same program, or the same error. -/
theorem Warms.load_alike (h : l.Warms dirs cold s) (h' : l.Warms dirs cold s') (empty : cold.Cold dirs)
    (steady : l.Steady dirs cold) {l₁ l₂ : Loader} {result₁ result₂ : Except Error Loaded}
    {s₁ s₂ : Storage} (source₁ : l₁.source = l.source) (compilation₁ : l₁.compilation = l.compilation)
    (source₂ : l₂.source = l.source) (compilation₂ : l₂.compilation = l.compilation)
    (loads₁ : l₁.Loads dirs name s result₁ s₁) (loads₂ : l₂.Loads dirs name s' result₂ s₂) :
    ExceptRel (fun a b => b.program = a.program) result₁ result₂ := by
  have program₁ := h.program empty steady source₁ compilation₁ loads₁
  have program₂ := h'.program empty steady source₂ compilation₂ loads₂
  rw [← program₁] at program₂
  cases result₁ with
  | error e =>
    cases result₂ with
    | error e' =>
      cases program₂
      exact .error e
    | ok _ => cases program₂
  | ok loaded =>
    cases result₂ with
    | error _ => cases program₂
    | ok loaded' => exact .ok (Except.ok.inj program₂)

end Loader
end TemplateEngine
