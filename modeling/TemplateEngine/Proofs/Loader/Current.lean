import TemplateEngine.Loader.Basic
import TemplateEngine.Proofs.Cache.Holds

/-!
# What a load gives

A load without a cache gives what the current text of the template compiles to.
With a cache it gives the same program if the strategy may trust what the storage
vouches for, and what it puts into the cache is again of that kind.
-/

namespace TemplateEngine

/-- Nothing but the log and the counts is different. -/
structure LoaderState.LogsOnly (s s' : LoaderState) : Prop where
  files : s'.storage.files = s.storage.files
  templates : s'.storage.templates = s.storage.templates
  memory : s'.storage.memory = s.storage.memory
  nextId : s'.storage.nextId = s.storage.nextId

theorem LoaderState.LogsOnly.trans {s s' s'' : LoaderState} (h : s.LogsOnly s')
    (h' : s'.LogsOnly s'') : s.LogsOnly s'' :=
  ⟨h'.files.trans h.files, h'.templates.trans h.templates, h'.memory.trans h.memory,
    h'.nextId.trans h.nextId⟩

theorem LoaderState.logsOnly_refl (s : LoaderState) : s.LogsOnly s := ⟨rfl, rfl, rfl, rfl⟩

theorem LoaderState.logsOnly_record (s : LoaderState) (on : Bool) (event : LogEvent) :
    s.LogsOnly (if on then s.record event else s) := by
  split <;> exact ⟨rfl, rfl, rfl, rfl⟩

namespace Loader

/-- What a text is compiled to under a name, apart from the identity. -/
def compiled (l : Loader) (name text : String) : Except Error Program :=
  match Template.parse name text with
  | .error e => .error (.parse e)
  | .ok t =>
    match t.compile l.compilation text with
    | .error e => .error (.compile e)
    | .ok program => .ok program

/-- What the current text of a template is compiled to. -/
def current (l : Loader) (s : Storage) (name : String) : Except Error Program :=
  match l.source.resolve s name with
  | .error e => .error e
  | .ok source => l.compiled name source.text

/-- Compiling gives what the text is compiled to, with an identity of its own. -/
theorem compile_cases (l : Loader) (name text : String) (s : LoaderState) :
    (∃ e s', l.compiled name text = .error e ∧ l.compile name text s = (.error e, s') ∧
      s.LogsOnly s') ∨
    ∃ p s', l.compiled name text = .ok p ∧
      l.compile name text s = (.ok ⟨s.storage.nextId, p⟩,
        { s' with storage := { s'.storage with nextId := s.storage.nextId + 1 } }) ∧
      s.LogsOnly s' := by
  unfold compiled Loader.compile
  cases Template.parse name text with
  | error e => exact .inl ⟨_, s, rfl, rfl, s.logsOnly_refl⟩
  | ok t =>
    dsimp only
    have first := s.logsOnly_record l.options.dumpTree
      ⟨.info, some name, "syntax tree:\n" ++ t.outline⟩
    generalize (if l.options.dumpTree = true then _ else s) = s₁ at first ⊢
    cases t.compile l.compilation text with
    | error e => exact .inl ⟨_, s₁, rfl, rfl, first⟩
    | ok p =>
      dsimp only
      have second := s₁.logsOnly_record l.options.dumpProgram
        ⟨.info, some name, "bytecode:\n" ++ p.listing⟩
      generalize (if l.options.dumpProgram = true then _ else s₁) = s₂ at second ⊢
      have both := first.trans second
      refine .inr ⟨p, s₂.countCompilation, rfl, ?_, both.files, both.templates, both.memory, both.nextId⟩
      rw [Storage.identify, both.nextId]
      rfl

/-- What a load of a template gives and leaves behind: nothing but an error, an
entry of the cache, or a new program that may have been stored. -/
inductive Loads (l : Loader) (dirs : Set String) (name : String) (s : Storage) :
    Except Error Loaded → Storage → Prop
  | failed {e result s'} : l.current s name = .error e → Cache.LookedUp dirs name s result s' →
      Loads l dirs name s (.error e) s'
  | hit {entry s'} : l.options.strategy ≠ .none →
      (l.options.strategy = .freshnessChecked → ∃ source, l.source.resolve s name = .ok source ∧
        l.options.freshness.isFresh entry.freshness (source.freshness l.build) = true) →
      Cache.LookedUp dirs name s (.ok (some entry)) s' → Loads l dirs name s (.ok entry.loaded) s'
  | fresh {source p result s₁ s'} : l.source.resolve s name = .ok source →
      l.compiled name source.text = .ok p → Cache.LookedUp dirs name s result s₁ →
      Cache.Stored ⟨name, source.freshness l.build, ⟨s₁.nextId, p⟩⟩
        { s₁ with nextId := s₁.nextId + 1 } s' →
      Loads l dirs name s (.ok ⟨s₁.nextId, p⟩) s'

variable {l : Loader} {dirs : Set String} {name : String} {s s₁ : LoaderState}

theorem resolve_congr (l : Loader) {s s' : Storage} (files : s'.files = s.files)
    (templates : s'.templates = s.templates) (name : String) :
    l.source.resolve s' name = l.source.resolve s name := by
  cases h : l.source <;> simp only [Source.resolve, files, templates]

theorem Loads.templates {s s' : Storage} {result : Except Error Loaded}
    (h : l.Loads dirs name s result s') : s'.templates = s.templates := by
  cases h with
  | failed _ looked | hit _ _ looked => exact looked.templates
  | fresh _ _ looked stored => exact stored.templates.trans looked.templates

theorem current_of_resolve {source : SourceText} {s : Storage}
    (resolved : l.source.resolve s name = .ok source) :
    l.current s name = l.compiled name source.text := by
  rw [current, resolved]

/-- Looking into the cache leaves the state behind that the cache does. -/
theorem lookup_cases (shared : l.cache.Shared dirs) (name : String) (s : LoaderState) :
    ∃ entry s₁ result, l.lookup name s = (entry, s₁) ∧
      Cache.LookedUp dirs name s.storage result s₁.storage ∧
      ∀ e, entry = some e → result = .ok (some e) := by
  have looked := shared.lookedUp name s.storage
  unfold Loader.lookup
  generalize l.cache.lookup name s.storage = r at looked
  obtain ⟨result, storage⟩ := r
  cases result with
  | ok entry =>
    refine ⟨entry, _, _, rfl, looked, ?_⟩
    rintro e rfl
    rfl
  | error e =>
    refine ⟨none, _, .error e, rfl, ?_, nofun⟩
    exact ⟨looked.files, looked.templates, looked.memory, looked.nextId, looked.found⟩

theorem store_stored (shared : l.cache.Shared dirs) (entry : CacheEntry) (s : LoaderState) :
    Cache.Stored entry s.storage (l.store entry s).storage := by
  have stored := shared.stored entry s.storage
  unfold Loader.store
  generalize l.cache.store entry s.storage = r at stored
  obtain ⟨result, storage⟩ := r
  cases result with
  | ok _ => exact stored
  | error e =>
    exact ⟨stored.working, stored.templates, stored.nextId, stored.memory, stored.files⟩

/-- Compiling behind a lookup that gives nothing to use, and storing or not. -/
theorem compile_loads {source : SourceText} {result : Except CacheError (Option CacheEntry)}
    {store : CacheEntry → LoaderState → LoaderState}
    (resolved : l.source.resolve s.storage name = .ok source)
    (looked : Cache.LookedUp dirs name s.storage result s₁.storage)
    (stores : ∀ entry s, Cache.Stored entry s.storage (store entry s).storage) :
    ∀ r s', (match l.compile name source.text s₁ with
      | (.error e, s) => (.error e, s)
      | (.ok loaded, s) =>
        (Except.ok loaded, store ⟨name, source.freshness l.build, loaded⟩ s)) = (r, s') →
      l.Loads dirs name s.storage r s'.storage := by
  intro r s' same
  rcases l.compile_cases name source.text s₁ with ⟨e, s₂, fails, eq, quiet⟩ | ⟨p, s₂, gives, eq, quiet⟩
  · rw [eq] at same
    cases same
    have looked' : Cache.LookedUp dirs name s.storage result s'.storage :=
      ⟨quiet.files.trans looked.files, quiet.templates.trans looked.templates,
        quiet.memory ▸ looked.memory, quiet.nextId ▸ looked.nextId, quiet.nextId ▸ looked.found⟩
    exact .failed ((current_of_resolve resolved).trans fails) looked'
  · rw [eq] at same
    cases same
    refine .fresh resolved gives looked ?_
    have stored := stores ⟨name, source.freshness l.build, ⟨s₁.storage.nextId, p⟩⟩
      { s₂ with storage := { s₂.storage with nextId := s₁.storage.nextId + 1 } }
    exact ⟨stored.working.trans (congrArg _ quiet.files), stored.templates.trans quiet.templates,
      stored.nextId, quiet.memory ▸ stored.memory, quiet.files ▸ stored.files⟩

theorem load_loads (shared : l.cache.Shared dirs) (name : String) (s : LoaderState) :
    l.Loads dirs name s.storage (l.load name s).1 (l.load name s).2.storage := by
  obtain ⟨entry, s₁, result, eq, looked, kept⟩ := lookup_cases shared name s
  have same := l.resolve_congr looked.files looked.templates name
  have untouched : Cache.LookedUp dirs name s.storage (.ok none) s.storage :=
    Cache.lookedUp_nothing nofun
  unfold load
  cases strategy : l.options.strategy with
  | none =>
    dsimp only
    unfold loadAnew
    cases resolved : l.source.resolve s.storage name with
    | error e => exact .failed (by rw [current, resolved]) untouched
    | ok source =>
      refine compile_loads resolved untouched (fun entry s => Cache.stored_refl entry s.storage) _ _ ?_
      dsimp only
      split <;> simp_all
  | memoryOnly =>
    dsimp only
    unfold loadOnce
    rw [eq]
    cases entry with
    | some entry => exact .hit (by simp [strategy]) (by simp [strategy]) (kept entry rfl ▸ looked)
    | none =>
      dsimp only
      rw [same]
      cases resolved : l.source.resolve s.storage name with
      | error e => exact .failed (by rw [current, resolved]) looked
      | ok source => exact compile_loads resolved looked (store_stored shared) _ _ rfl
  | freshnessChecked =>
    dsimp only
    unfold loadFresh
    cases resolved : l.source.resolve s.storage name with
    | error e => exact .failed (by rw [current, resolved]) untouched
    | ok source =>
      dsimp only
      rw [eq]
      cases entry with
      | none => exact compile_loads resolved looked (store_stored shared) _ _ rfl
      | some entry =>
        dsimp only
        split
        case isTrue fresh =>
          exact .hit (by simp [strategy]) (fun _ => ⟨source, resolved, fresh⟩) (kept entry rfl ▸ looked)
        case isFalse => exact compile_loads resolved looked (store_stored shared) _ _ rfl

/-- Without a cache a load gives what the current text is compiled to. -/
theorem Loads.program_of_none {s s' : Storage} {result : Except Error Loaded}
    (h : l.Loads dirs name s result s') (strategy : l.options.strategy = .none) :
    result.map Loaded.program = l.current s name := by
  cases h with
  | failed fails _ => rw [fails]; rfl
  | hit some _ _ => exact absurd strategy some
  | fresh resolved gives _ _ => rw [current_of_resolve resolved, gives]; rfl

/-- What the entries of a storage have is enough for a loader to use them. -/
def Trusts (l : Loader) (Q : EntryProperty) (s : Storage) (name : String) : Prop :=
  ∀ freshness p, Q name freshness p →
    (l.options.strategy = .freshnessChecked → ∃ source, l.source.resolve s name = .ok source ∧
      l.options.freshness.isFresh freshness (source.freshness l.build) = true) →
    l.current s name = .ok p

theorem Loads.program {s s' : Storage} {Q : EntryProperty} {result : Except Error Loaded}
    (h : l.Loads dirs name s result s') (holds : s.Holds dirs Q) (trusts : l.Trusts Q s name) :
    result.map Loaded.program = l.current s name := by
  cases h with
  | failed fails _ => rw [fails]; rfl
  | hit _ fresh looked =>
    obtain ⟨-, has⟩ := holds.found looked rfl
    rw [trusts _ _ has fresh]
    rfl
  | fresh resolved gives _ _ => rw [current_of_resolve resolved, gives]; rfl

/-- A load puts into the cache what its text is compiled to. -/
theorem Loads.holds {s s' : Storage} {Q : EntryProperty} {result : Except Error Loaded}
    (h : l.Loads dirs name s result s') (holds : s.Holds dirs Q) (lasting : Q.Lasting)
    (vouches : ∀ source p, l.source.resolve s name = .ok source →
      l.compiled name source.text = .ok p → Q name (source.freshness l.build) p) :
    s'.Holds dirs Q := by
  cases h with
  | failed _ looked => exact holds.lookedUp looked
  | hit _ _ looked => exact holds.lookedUp looked
  | @fresh source p _ s₁ _ resolved gives looked stored =>
    have before := holds.lookedUp looked
    have same : ({ s₁ with nextId := s₁.nextId + 1 } : Storage).Holds dirs Q :=
      ⟨before.anchored, before.memory, before.files⟩
    exact same.stored lasting (vouches _ _ resolved gives) stored

end Loader
end TemplateEngine
