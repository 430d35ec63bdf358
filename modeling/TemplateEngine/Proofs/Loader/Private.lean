import TemplateEngine.Proofs.Loader.Current

/-!
# A loader with a cache of its own

What a loader of templates in memory does at a load, with a cache that no one else
uses, depends on the text and on the entry of the name alone. The entry is used, or the
text is compiled and the program becomes the entry, or the load fails and changes
nothing.
-/

namespace TemplateEngine

namespace LoaderState

/-- The same state with another log. -/
def withLog (s : LoaderState) (log : List LogEvent) : LoaderState :=
  { s with storage := { s.storage with log := log } }

/-- The next identity is given to a program, and the compilation is counted. -/
def identified (s : LoaderState) : LoaderState :=
  { storage := { s.storage with nextId := s.storage.nextId + 1 }
    stats := { s.stats with compilations := s.stats.compilations + 1 } }

def keep (s : LoaderState) (entry : CacheEntry) : LoaderState :=
  { s with storage := { s.storage with memory := s.storage.memory.insert entry.name entry } }

theorem exists_withLog_record (s : LoaderState) (on : Bool) (event : LogEvent) :
    ∃ log, (if on then s.record event else s) = s.withLog log := by
  cases on with
  | false => exact ⟨s.storage.log, rfl⟩
  | true => exact ⟨event :: s.storage.log, rfl⟩

end LoaderState

namespace Loader

variable {l : Loader} {name text : String} {s : LoaderState}

/-- Compiling counts the programs that it makes, and a failure changes nothing but the log. -/
theorem compile_eq (l : Loader) (name text : String) (s : LoaderState) :
    ∃ log, l.compile name text s = match l.compiled name text with
      | .error e => (.error e, s.withLog log)
      | .ok p => (.ok ⟨s.storage.nextId, p⟩, (s.withLog log).identified) := by
  unfold compiled Loader.compile
  cases Template.parse name text with
  | error e => exact ⟨s.storage.log, rfl⟩
  | ok t =>
    dsimp only
    obtain ⟨log, same⟩ := s.exists_withLog_record l.options.dumpTree
      ⟨.info, some name, "syntax tree:\n" ++ t.outline⟩
    rw [same]
    cases t.compile l.compilation text with
    | error e => exact ⟨log, rfl⟩
    | ok p =>
      dsimp only
      obtain ⟨log', same'⟩ := (s.withLog log).exists_withLog_record l.options.dumpProgram
        ⟨.info, some name, "bytecode:\n" ++ p.listing⟩
      rw [same']
      exact ⟨log', rfl⟩

/-- The templates are registered in memory, and the cache is the one of the process. -/
structure IsPrivate (l : Loader) : Prop where
  source : l.source = .memory
  cache : l.cache = .memory

/-- The token of a text that is registered in memory. -/
def token (l : Loader) (digest : String) : Freshness := ⟨none, digest, none, l.build⟩

/-- A text is known by its digest, whatever is compared. -/
theorem isFresh_token (l : Loader) (check : FreshnessCheck) (stored current : String) :
    check.isFresh (l.token stored) (l.token current) = (stored == current) := by
  cases check <;> simp [FreshnessCheck.isFresh, Freshness.sameOrigin, token]

/-- What a load comes to. -/
inductive Answer where
  | failed (e : Error)
  | hit (entry : CacheEntry)
  /-- A text is compiled to a program. -/
  | made (text : String) (program : Program)

/-- What a load without a cache comes to. -/
def answerAnew (l : Loader) (name : String) (source? : Option String) : Answer :=
  match source? with
  | none => .failed (.notFound name [])
  | some text =>
    match l.compiled name text with
    | .error e => .failed e
    | .ok p => .made text p

/-- What a load comes to, from the text of the name and its entry. -/
def answer (l : Loader) (name : String) (source? : Option String) (cached? : Option CacheEntry) : Answer :=
  match l.options.strategy, cached?, source? with
  | .memoryOnly, some entry, _ => .hit entry
  | .freshnessChecked, some entry, some text =>
    if l.options.freshness.isFresh entry.freshness (l.token (Digest.ofText text)) then .hit entry
    else l.answerAnew name source?
  | _, _, _ => l.answerAnew name source?

/-- What a load comes to in a state. -/
def answerIn (l : Loader) (name : String) (s : LoaderState) : Answer :=
  l.answer name (s.storage.templates.get? name) (s.storage.memory.get? name)

/-- What a load gives. -/
def Answer.result (id : Nat) : Answer → Except Error Loaded
  | .failed e => .error e
  | .hit entry => .ok entry.loaded
  | .made _ program => .ok ⟨id, program⟩

/-- What a load leaves behind, apart from the log. -/
def Answer.leaves (l : Loader) (name : String) (s : LoaderState) : Answer → LoaderState
  | .failed _ => s
  | .hit _ => s.countHit
  | .made text program =>
    if l.options.strategy = .none then s.identified
    else s.identified.keep ⟨name, l.token (Digest.ofText text), ⟨s.storage.nextId, program⟩⟩

theorem resolve_memory (own : l.IsPrivate) (s : Storage) (name : String) :
    l.source.resolve s name = match s.templates.get? name with
      | some text => .ok ⟨none, text, none⟩
      | none => .error (.notFound name []) := by
  rw [own.source]
  rfl

theorem lookup_memory (own : l.IsPrivate) (name : String) (s : LoaderState) :
    l.lookup name s = (s.storage.memory.get? name, s) := by
  rw [Loader.lookup, own.cache]
  rfl

theorem store_memory (own : l.IsPrivate) (entry : CacheEntry) (s : LoaderState) :
    l.store entry s = s.keep entry := by
  rw [Loader.store, own.cache]
  rfl

theorem freshness_memory (l : Loader) (text : String) :
    (⟨none, text, none⟩ : SourceText).freshness l.build = l.token (Digest.ofText text) := by
  rw [SourceText.freshness, token]

theorem answer_of_none {source? : Option String} : l.answer name source? none = l.answerAnew name source? := by
  unfold answer
  split <;> simp_all

theorem compileAndStore_eq (own : l.IsPrivate) (used : l.options.strategy ≠ .none) (name text : String)
    (s : LoaderState) :
    ∃ log, l.compileAndStore name ⟨none, text, none⟩ s =
      ((l.answerAnew name (some text)).result s.storage.nextId,
        (l.answerAnew name (some text)).leaves l name (s.withLog log)) := by
  obtain ⟨log, same⟩ := l.compile_eq name text s
  refine ⟨log, ?_⟩
  unfold compileAndStore answerAnew
  dsimp only
  rw [same]
  cases l.compiled name text with
  | error e => rfl
  | ok p =>
    simp only [store_memory own, freshness_memory, Answer.result, Answer.leaves, if_neg used]
    rfl

theorem loadAnew_eq (own : l.IsPrivate) (strategy : l.options.strategy = .none) (name : String)
    (s : LoaderState) :
    ∃ log, l.loadAnew name s =
      ((l.answerAnew name (s.storage.templates.get? name)).result s.storage.nextId,
        (l.answerAnew name (s.storage.templates.get? name)).leaves l name (s.withLog log)) := by
  unfold loadAnew
  rw [resolve_memory own]
  cases s.storage.templates.get? name with
  | none => exact ⟨s.storage.log, rfl⟩
  | some text =>
    obtain ⟨log, same⟩ := l.compile_eq name text s
    refine ⟨log, ?_⟩
    unfold answerAnew
    dsimp only
    rw [same]
    cases l.compiled name text with
    | error e => rfl
    | ok p => simp only [Answer.result, Answer.leaves, if_pos strategy]

theorem loadOnce_eq (own : l.IsPrivate) (strategy : l.options.strategy = .memoryOnly) (name : String)
    (s : LoaderState) :
    ∃ log, l.loadOnce name s =
      ((l.answerIn name s).result s.storage.nextId, (l.answerIn name s).leaves l name (s.withLog log)) := by
  have used : l.options.strategy ≠ .none := by simp [strategy]
  unfold loadOnce answerIn
  rw [lookup_memory own]
  cases s.storage.memory.get? name with
  | some entry =>
    refine ⟨s.storage.log, ?_⟩
    simp only [answer, strategy]
    rfl
  | none =>
    dsimp only
    rw [resolve_memory own, answer_of_none]
    cases s.storage.templates.get? name with
    | none => exact ⟨s.storage.log, rfl⟩
    | some text => exact compileAndStore_eq own used name text s

theorem loadFresh_eq (own : l.IsPrivate) (strategy : l.options.strategy = .freshnessChecked)
    (name : String) (s : LoaderState) :
    ∃ log, l.loadFresh name s =
      ((l.answerIn name s).result s.storage.nextId, (l.answerIn name s).leaves l name (s.withLog log)) := by
  have used : l.options.strategy ≠ .none := by simp [strategy]
  unfold loadFresh answerIn
  rw [resolve_memory own]
  cases s.storage.templates.get? name with
  | none =>
    refine ⟨s.storage.log, ?_⟩
    simp only [answer, strategy]
    cases s.storage.memory.get? name <;> rfl
  | some text =>
    dsimp only
    rw [lookup_memory own]
    cases s.storage.memory.get? name with
    | none =>
      rw [answer_of_none]
      exact compileAndStore_eq own used name text s
    | some entry =>
      dsimp only
      simp only [freshness_memory, answer, strategy]
      by_cases fresh : l.options.freshness.isFresh entry.freshness (l.token (Digest.ofText text)) = true
      · refine ⟨s.storage.log, ?_⟩
        rw [if_pos fresh, if_pos fresh]
        rfl
      · rw [if_neg fresh, if_neg fresh]
        exact compileAndStore_eq own used name text s

/-- A load comes to its answer. -/
theorem load_eq (own : l.IsPrivate) (name : String) (s : LoaderState) :
    ∃ log, l.load name s =
      ((l.answerIn name s).result s.storage.nextId, (l.answerIn name s).leaves l name (s.withLog log)) := by
  unfold load
  cases strategy : l.options.strategy with
  | none =>
    have anew : l.answerIn name s = l.answerAnew name (s.storage.templates.get? name) := by
      simp only [answerIn, answer, strategy]
    rw [anew]
    exact loadAnew_eq own strategy name s
  | memoryOnly => exact loadOnce_eq own strategy name s
  | freshnessChecked => exact loadFresh_eq own strategy name s

end Loader
end TemplateEngine
