import TemplateEngine.Proofs.Loader.Current

/-!
# Caches never serve stale programs

Loaders of all kinds share a storage: they have sources, settings and strategies
of their own, their caches may fail at any call, and in between templates change
and entries are invalidated. Each entry is then the compilation of the text that
its token describes, by the build that the token names. So a loader that checks
freshness gives what the current text compiles to, or the error that it would
give without a cache.
-/

namespace TemplateEngine

/-- Any change outside of the caches. Entries may get lost and their files be
damaged, but none is forged. -/
structure Storage.Edited (dirs : Set String) (s s' : Storage) : Prop where
  working : s'.files.working = s.files.working
  memory : ∀ name entry, s'.memory.get? name = some entry → s.memory.get? name = some entry
  files : ∀ dir ∈ dirs, ∀ name bytes stored,
    s'.files.fileAt? (s.files.names (Cache.entryPath dir name)) = some bytes →
    CacheFile.read name bytes = .found stored →
    s.files.fileAt? (s.files.names (Cache.entryPath dir name)) = some bytes

/-- One operation on a storage in which the templates loaded are among `sources`. -/
inductive Operation (dirs : Set String) (sources : Set SourceText) : Storage → Storage → Prop
  | edit {s s'} : s.Edited dirs s' → Operation dirs sources s s'
  | load {s} (l : Loader) (name : String) (stats : LoaderStats) : l.cache.Shared dirs →
      (∀ source, l.source.resolve s name = .ok source → source ∈ sources) →
      Operation dirs sources s (l.load name ⟨s, stats⟩).2.storage
  | loadText {s} (l : Loader) (name text : String) (stats : LoaderStats) :
      Operation dirs sources s (l.loadText name text ⟨s, stats⟩).2.storage
  | invalidate {s} (c : Cache) (name : String) : c.Shared dirs →
      Operation dirs sources s (c.invalidate name s).2

/-- Operations one after the other. -/
inductive History (dirs : Set String) (sources : Set SourceText) : Storage → Storage → Prop
  | refl (s) : History dirs sources s s
  | step {s s' s''} : History dirs sources s s' → Operation dirs sources s' s'' →
      History dirs sources s s''

/-- A storage with no entry, in memory or in a file. -/
structure Storage.Cold (dirs : Set String) (s : Storage) : Prop where
  anchored : s.files.Anchored
  memory : s.memory = []
  files : ∀ dir ∈ dirs, ∀ name bytes stored,
    s.files.fileAt? (s.files.names (Cache.entryPath dir name)) = some bytes →
    CacheFile.read name bytes ≠ .found stored

/-- Different texts of these sources have different digests. Nanoseconds of a time
are less than a second, as in every time of a file system. -/
structure Distinguished (sources : Set SourceText) : Prop where
  digests : ∀ a ∈ sources, ∀ b ∈ sources, Digest.ofText a.text = Digest.ofText b.text → a.text = b.text
  times : ∀ a ∈ sources, ∀ t ∈ a.modified, t.Proper

/-- Whether two texts were found at the same place. -/
def SourceText.sameOrigin (a b : SourceText) : Bool := (a.freshness "").sameOrigin (b.freshness "")

/-- Texts of one place that were last changed at one time are the same. -/
def Dated (sources : Set SourceText) : Prop :=
  ∀ a ∈ sources, ∀ b ∈ sources, a.sameOrigin b = true → a.modified.isSome → a.modified = b.modified →
    a.text = b.text

/-- The entry is what some loader made of one of the sources. -/
def Vouched (sources : Set SourceText) : EntryProperty := fun name freshness p =>
  ∃ l : Loader, ∃ source ∈ sources, freshness = source.freshness l.build ∧
    l.compiled name source.text = .ok p

/-- The same loader with no use of its cache. -/
def Loader.uncached (l : Loader) : Loader := { l with options := { l.options with strategy := .none } }

variable {dirs : Set String} {sources : Set SourceText} {s s' : Storage} {l l' : Loader}
  {name : String}

theorem CompileOptions.fingerprint_inj {a b : CompileOptions} (h : a.fingerprint = b.fingerprint) :
    a = b := by
  obtain ⟨a⟩ := a
  obtain ⟨b⟩ := b
  cases a <;> cases b <;> first | rfl | exact absurd h (by decide)

/-- The build names the settings of the compiler. -/
theorem Loader.compilation_of_build (h : l.build = l'.build) : l.compilation = l'.compilation := by
  have dialects : l.dialect.name = l'.dialect.name := by
    cases l.dialect
    cases l'.dialect
    rfl
  rw [Loader.build, Loader.build, dialects] at h
  exact CompileOptions.fingerprint_inj ((String.append_right_inj _).mp h)

theorem Loader.compiled_congr (h : l.compilation = l'.compilation) (name text : String) :
    l.compiled name text = l'.compiled name text := by
  unfold Loader.compiled
  rw [h]

theorem lasting_vouched (distinguished : Distinguished sources) : (Vouched sources).Lasting := by
  rintro name _ p ⟨l, source, known, rfl, gives⟩
  have proper : ∀ t ∈ (source.freshness l.build).modified, t.Proper :=
    distinguished.times source known
  exact ⟨l, source, known, Freshness.normal_of_proper proper, gives⟩

theorem Storage.Cold.holds (cold : s.Cold dirs) (Q : EntryProperty) : s.Holds dirs Q := by
  refine ⟨cold.anchored, ?_, ?_⟩
  · intro name entry kept
    rw [cold.memory] at kept
    cases kept
  · intro dir known name bytes stored there read
    exact absurd read (cold.files dir known name bytes stored there)

theorem Storage.cold_of_empty (files : s.files = .empty) (memory : s.memory = []) : s.Cold dirs := by
  refine ⟨?_, memory, ?_⟩
  · rw [files]
    rfl
  · intro dir _ name bytes stored there
    rw [files, FileSystem.fileAt?_empty] at there
    cases there

theorem Storage.Edited.holds {Q : EntryProperty} (edited : s.Edited dirs s') (h : s.Holds dirs Q) :
    s'.Holds dirs Q := by
  refine ⟨?_, fun name entry kept => h.memory name entry (edited.memory name entry kept),
    fun dir known name bytes stored there read => ?_⟩
  · rw [FileSystem.Anchored, edited.working]
    exact h.anchored
  · rw [FileSystem.names_congr edited.working] at there
    exact h.files dir known name bytes stored (edited.files dir known name bytes stored there read) read

theorem Storage.edited_templates (s : Storage) (templates : Bindings String) :
    s.Edited dirs { s with templates := templates } :=
  ⟨rfl, fun _ _ kept => kept, fun _ _ _ _ _ there _ => there⟩

/-- Every operation keeps a property of entries that holds of whatever some loader
compiles one of the sources to. -/
theorem Operation.keeps {Q : EntryProperty} (operation : Operation dirs sources s s')
    (lasting : Q.Lasting)
    (vouches : ∀ (l : Loader) (name : String), ∀ source ∈ sources, ∀ p,
      l.compiled name source.text = .ok p → Q name (source.freshness l.build) p)
    (h : s.Holds dirs Q) : s'.Holds dirs Q := by
  cases operation with
  | edit edited => exact edited.holds h
  | load l name stats shared occurs =>
    refine (l.load_loads shared name ⟨s, stats⟩).holds h lasting ?_
    intro source p resolved gives
    exact vouches l name source (occurs source resolved) p gives
  | loadText l name text stats =>
    rcases l.compile_cases name text ⟨s, stats⟩ with ⟨e, s₁, -, eq, quiet⟩ | ⟨p, s₁, -, eq, quiet⟩
    · rw [Loader.loadText, eq]
      exact ⟨quiet.files ▸ h.anchored, quiet.memory ▸ h.memory, quiet.files ▸ h.files⟩
    · rw [Loader.loadText, eq]
      exact ⟨quiet.files ▸ h.anchored, quiet.memory ▸ h.memory, quiet.files ▸ h.files⟩
  | invalidate c name shared => exact h.invalidated (shared.invalidated name s)

theorem History.keeps {Q : EntryProperty} (history : History dirs sources s s')
    (lasting : Q.Lasting)
    (vouches : ∀ (l : Loader) (name : String), ∀ source ∈ sources, ∀ p,
      l.compiled name source.text = .ok p → Q name (source.freshness l.build) p)
    (h : s.Holds dirs Q) : s'.Holds dirs Q := by
  induction history with
  | refl => exact h
  | step _ operation ih => exact operation.keeps lasting vouches ih

/-- Every history leaves entries behind that some loader made of its source. -/
theorem History.holds (history : History dirs sources s s') (distinguished : Distinguished sources)
    (h : s.Holds dirs (Vouched sources)) : s'.Holds dirs (Vouched sources) := by
  apply history.keeps (lasting_vouched distinguished) _ h
  intro l name source known p gives
  exact ⟨l, source, known, rfl, gives⟩

/-- A fresh token has the origin and the build of the current one. -/
theorem FreshnessCheck.same_of_isFresh {check : FreshnessCheck} {stored current : Freshness}
    (fresh : check.isFresh stored current = true) :
    stored.sameOrigin current = true ∧ stored.build = current.build := by
  unfold FreshnessCheck.isFresh at fresh
  split at fresh
  · cases fresh
  case isFalse same => simpa using same

/-- A fresh token describes the text of the current one. -/
theorem text_of_isFresh {check : FreshnessCheck} {a b : SourceText} {build build' : String}
    (distinguished : Distinguished sources) (dated : check = .modifiedTime → Dated sources)
    (ha : a ∈ sources) (hb : b ∈ sources)
    (fresh : check.isFresh (a.freshness build) (b.freshness build') = true) :
    build = build' ∧ a.text = b.text := by
  obtain ⟨origin, same⟩ := FreshnessCheck.same_of_isFresh fresh
  refine ⟨same, ?_⟩
  unfold FreshnessCheck.isFresh at fresh
  split at fresh
  · cases fresh
  · split at fresh
    case h_1 t t' at_t at_t' =>
      have times : a.modified = b.modified := by
        have at_a : a.modified = some t := at_t
        have at_b : b.modified = some t' := at_t'
        rw [at_a, at_b, beq_iff_eq.mp fresh]
      refine dated rfl a ha b hb origin ?_ times
      have at_a : a.modified = some t := at_t
      rw [at_a]
      rfl
    case h_2 => exact distinguished.digests a ha b hb (beq_iff_eq.mp fresh)

/-- A loader that checks freshness may use what other loaders have stored. -/
theorem Loader.trusts_vouched (distinguished : Distinguished sources)
    (strategy : l.options.strategy = .freshnessChecked)
    (dated : l.options.freshness = .modifiedTime → Dated sources)
    (occurs : ∀ source, l.source.resolve s name = .ok source → source ∈ sources) :
    l.Trusts (Vouched sources) s name := by
  rintro _ p ⟨l', source', known, rfl, gives⟩ checked
  obtain ⟨source, resolved, fresh⟩ := checked strategy
  obtain ⟨build, text⟩ := text_of_isFresh distinguished dated known (occurs source resolved) fresh
  rw [Loader.current_of_resolve resolved, ← text,
    Loader.compiled_congr (Loader.compilation_of_build build.symm)]
  exact gives

theorem Loader.compiled_eq_ok {text : String} {p : Program} :
    l.compiled name text = .ok p ↔
      ∃ t, Template.parse name text = .ok t ∧ t.compile l.compilation text = .ok p := by
  unfold Loader.compiled
  cases Template.parse name text with
  | error e => simp
  | ok t => cases h : t.compile l.compilation text <;> simp [h]

/-- After any history a load that checks freshness gives the program of the current
text, and otherwise the error that it would give without a cache. -/
theorem checked_load_coherent {start : Storage} (stats : LoaderStats)
    (distinguished : Distinguished sources) (cold : start.Cold dirs)
    (history : History dirs sources start s) (shared : l.cache.Shared dirs)
    (strategy : l.options.strategy = .freshnessChecked)
    (dated : l.options.freshness = .modifiedTime → Dated sources)
    (occurs : ∀ source, l.source.resolve s name = .ok source → source ∈ sources) :
    (∀ p, (∃ id, (l.load name ⟨s, stats⟩).1 = .ok ⟨id, p⟩) ↔
      ∃ source t, l.source.resolve s name = .ok source ∧ Template.parse name source.text = .ok t ∧
        t.compile l.compilation source.text = .ok p) ∧
    ∀ e, (l.load name ⟨s, stats⟩).1 = .error e ↔
      (l.uncached.load name ⟨s, stats⟩).1 = .error e := by
  have holds := history.holds distinguished (cold.holds _)
  have program := (l.load_loads shared name ⟨s, stats⟩).program holds
    (Loader.trusts_vouched distinguished strategy dated occurs)
  have plain : (l.uncached.load name ⟨s, stats⟩).1.map Loaded.program = l.current s name :=
    (l.uncached.load_loads shared name ⟨s, stats⟩).program_of_none rfl
  constructor
  · intro p
    have here : (∃ id, (l.load name ⟨s, stats⟩).1 = .ok ⟨id, p⟩) ↔ l.current s name = .ok p := by
      rw [← program]
      cases (l.load name ⟨s, stats⟩).1 with
      | error e => simp [Except.map]
      | ok loaded =>
        obtain ⟨id, q⟩ := loaded
        simp [Except.map]
    rw [here, Loader.current]
    cases l.source.resolve s name with
    | error e => simp
    | ok source => simp [Loader.compiled_eq_ok]
  · intro e
    rw [← plain] at program
    generalize (l.load name ⟨s, stats⟩).1 = r at program
    generalize (l.uncached.load name ⟨s, stats⟩).1 = r' at program
    cases r <;> cases r' <;> simp_all [Except.map]

namespace Revision

/-- A loader with all defaults and a durable cache. -/
def loader : Loader where
  source := .memory
  cache := .layered (.file "cache")
  dialect := .tterse
  compilation := ⟨true⟩
  options := {}

def first : Storage := { Storage.empty with templates := [("greeting", "hello")] }

/-- The template is loaded and then edited. -/
def edited : Storage :=
  { (loader.load "greeting" ⟨first, .zero⟩).2.storage with templates := [("greeting", "bye")] }

def texts : Set SourceText := {⟨none, "hello", none⟩, ⟨none, "bye", none⟩}

theorem cold_first : first.Cold {"cache"} := Storage.cold_of_empty rfl rfl

theorem distinguished_texts : Distinguished texts := by
  constructor
  · rintro _ (rfl | rfl) _ (rfl | rfl) same
    · rfl
    · exact absurd same (by decide +kernel)
    · exact absurd same (by decide +kernel)
    · rfl
  · rintro _ (rfl | rfl) t ⟨⟩

theorem dated_texts : Dated texts := by
  rintro _ (rfl | rfl) _ _ _ ⟨⟩

theorem resolve_first : loader.source.resolve first "greeting" = .ok ⟨none, "hello", none⟩ := rfl

theorem resolve_edited : loader.source.resolve edited "greeting" = .ok ⟨none, "bye", none⟩ := rfl

theorem checked_load_after_edit :
    ∃ id, (loader.load "greeting" ⟨edited, .zero⟩).1 = .ok ⟨id, {
      name := "greeting"
      constants := #[.str "bye"]
      names := #[]
      macros := #[]
      instructions := #[.constLoad 0, .print .raw, .finish] }⟩ := by
  have shared : loader.cache.Shared {"cache"} := by
    have same : loader.cache = .layered (.file "cache") := rfl
    rw [same]
    exact .layered (.file rfl)
  have history : History {"cache"} texts first edited := by
    refine .step (.step (.refl first) (.load loader "greeting" .zero shared ?_))
      (.edit (Storage.edited_templates _ _))
    intro source resolved
    cases resolve_first.symm.trans resolved
    exact .inl rfl
  have coherent := checked_load_coherent .zero distinguished_texts cold_first history shared rfl
    (fun _ => dated_texts) fun source resolved => by
      cases resolve_edited.symm.trans resolved
      exact .inr rfl
  exact (coherent.1 _).mpr ⟨_, ⟨"greeting", [.text "bye"]⟩, resolve_edited, rfl, rfl⟩

end Revision
end TemplateEngine
