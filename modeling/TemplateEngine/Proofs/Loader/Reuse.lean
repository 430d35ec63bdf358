import TemplateEngine.Proofs.Loader.Private

/-!
# Reuse by one loader

While templates are edited and removed, a loader with a cache of its own goes by the
loads of a name that compiled, and by the last of them only: what its strategy lets it
use again is the program of that load. Failed loads and texts that are compiled for
themselves leave no trace in what it does later.
-/

namespace TemplateEngine

/-- Identities from `first` on are moved up. -/
def Loaded.shift (first by_ : Nat) (p : Loaded) : Loaded :=
  { p with id := if p.id < first then p.id else p.id + by_ }

def CacheEntry.shift (first by_ : Nat) (e : CacheEntry) : CacheEntry :=
  { e with loaded := e.loaded.shift first by_ }

/-- No one has used the loader or its cache. -/
structure LoaderState.IsUnused (s : LoaderState) : Prop where
  memory : s.storage.memory = []
  stats : s.stats = .zero

namespace Loader

/-- What happens to a loader and to the templates that it loads. -/
inductive Event where
  | edit (name text : String)
  | remove (name : String)
  | load (name : String)
  | loadText (name text : String)

/-- What a load gives, and what is left after the event. -/
def Event.perform (l : Loader) (s : LoaderState) : Event → Option (Except Error Loaded) × LoaderState
  | edit name text =>
    (none, { s with storage := { s.storage with templates := s.storage.templates.insert name text } })
  | remove name =>
    (none, { s with storage := { s.storage with templates := s.storage.templates.erase name } })
  | load name => ((l.load name s).1, (l.load name s).2)
  | loadText name text => ((l.loadText name text s).1, (l.loadText name text s).2)

/-- The state after some events, latest first. -/
def after (l : Loader) (s : LoaderState) : List Event → LoaderState
  | [] => s
  | event :: earlier => (event.perform l (l.after s earlier)).2

/-- How many loads, of templates and of texts, have succeeded. -/
def successes (l : Loader) (s : LoaderState) : List Event → Nat
  | [] => 0
  | event :: earlier =>
    match (event.perform l (l.after s earlier)).1 with
    | some (.ok _) => l.successes s earlier + 1
    | _ => l.successes s earlier

/-- The digest of the text and the program of the last load of a name that compiled. -/
def lastCompiled (l : Loader) (s : LoaderState) (name : String) : List Event → Option (String × Loaded)
  | [] => none
  | .load other :: earlier =>
    match l.load other (l.after s earlier) with
    | (.ok loaded, s') =>
      if other = name ∧ s'.stats.compilations = (l.after s earlier).stats.compilations + 1 then
        ((l.after s earlier).storage.templates.get? name).map fun text => (Digest.ofText text, loaded)
      else l.lastCompiled s name earlier
    | _ => l.lastCompiled s name earlier
  | _ :: earlier => l.lastCompiled s name earlier

/-- The entry that a load which compiled makes. -/
def entryOf (l : Loader) (name : String) (last : String × Loaded) : CacheEntry :=
  ⟨name, l.token last.1, last.2⟩

variable {l : Loader} {s s' s₀ : LoaderState} {name : String} {a : Answer} {n k : Nat}
  {events : List Event}

theorem stats_leaves (l : Loader) (name : String) (s : LoaderState) (a : Answer) :
    (a.leaves l name s).stats = match a with
      | .failed _ => s.stats
      | .hit _ => s.countHit.stats
      | .made _ _ => s.countCompilation.stats := by
  cases a with
  | failed | hit => rfl
  | made text p =>
    rw [Answer.leaves]
    split <;> rfl

/-- A program is made of the text of the name. -/
theorem text_of_made {source? : Option String} {cached? : Option CacheEntry} {text : String}
    {p : Program} (made : l.answer name source? cached? = .made text p) : source? = some text := by
  have anew (found : l.answerAnew name source? = .made text p) : source? = some text := by
    unfold answerAnew at found
    split at found
    · cases found
    · split at found
      · cases found
      · cases found
        rfl
  unfold answer at made
  split at made
  · cases made
  · split at made
    · cases made
    · exact anew made
  · exact anew made

theorem lastCompiled_load (own : l.IsPrivate) (s₀ : LoaderState) (name other : String)
    (events : List Event) :
    l.lastCompiled s₀ name (.load other :: events) =
      match l.answerIn other (l.after s₀ events) with
      | .made text p =>
        if other = name then some (Digest.ofText text, ⟨(l.after s₀ events).storage.nextId, p⟩)
        else l.lastCompiled s₀ name events
      | _ => l.lastCompiled s₀ name events := by
  obtain ⟨log, same⟩ := load_eq own other (l.after s₀ events)
  rw [lastCompiled, same]
  have stats := stats_leaves l other ((l.after s₀ events).withLog log)
  cases answer : l.answerIn other (l.after s₀ events) with
  | failed e => rfl
  | hit entry =>
    simp only [Answer.result, stats]
    rw [if_neg]
    rintro ⟨-, more⟩
    exact absurd more.symm (Nat.succ_ne_self _)
  | made text p =>
    simp only [Answer.result, stats]
    by_cases own : other = name
    · subst own
      have counted : ((l.after s₀ events).withLog log).countCompilation.stats.compilations =
          (l.after s₀ events).stats.compilations + 1 := rfl
      simp only [counted, and_self, if_true, text_of_made answer, Option.map_some]
    · rw [if_neg fun both => own both.1, if_neg own]

/-- What holds after any events. -/
structure Settled (l : Loader) (s₀ : LoaderState) (events : List Event) : Prop where
  entries : l.options.strategy ≠ .none → ∀ name, (l.after s₀ events).storage.memory.get? name =
    (l.lastCompiled s₀ name events).map (l.entryOf name)
  below : ∀ name entry, (l.after s₀ events).storage.memory.get? name = some entry →
    entry.loaded.id < (l.after s₀ events).storage.nextId
  counted : (l.after s₀ events).stats.compilations + (l.after s₀ events).stats.cacheHits =
    l.successes s₀ events

theorem after_load (l : Loader) (s₀ : LoaderState) (other : String) (events : List Event) :
    l.after s₀ (.load other :: events) = (l.load other (l.after s₀ events)).2 := rfl

theorem successes_load (l : Loader) (s₀ : LoaderState) (other : String) (events : List Event) :
    l.successes s₀ (.load other :: events) = match (l.load other (l.after s₀ events)).1 with
      | .ok _ => l.successes s₀ events + 1
      | .error _ => l.successes s₀ events := by
  rw [successes, Event.perform]
  cases (l.load other (l.after s₀ events)).1 <;> rfl

/-- An event that leaves the entries alone. -/
theorem Settled.of_memory (h : l.Settled s₀ events) {event : Event}
    (after : l.after s₀ (event :: events) = s)
    (memory : s.storage.memory = (l.after s₀ events).storage.memory)
    (nextId : (l.after s₀ events).storage.nextId ≤ s.storage.nextId)
    (last : l.options.strategy ≠ .none → ∀ name,
      l.lastCompiled s₀ name (event :: events) = l.lastCompiled s₀ name events)
    (counted : s.stats.compilations + s.stats.cacheHits = l.successes s₀ (event :: events)) :
    l.Settled s₀ (event :: events) where
  entries used name := by
    rw [after, memory, last used]
    exact h.entries used name
  below name entry kept := by
    rw [after] at kept ⊢
    exact Nat.lt_of_lt_of_le (h.below name entry (memory ▸ kept)) nextId
  counted := after ▸ counted

/-- A load that compiles, and keeps the program. -/
theorem Settled.of_kept (h : l.Settled s₀ events) {other text : String} {p : Program}
    {log : List LogEvent}
    (after : l.after s₀ (.load other :: events) = ((l.after s₀ events).withLog log).identified.keep
      ⟨other, l.token (Digest.ofText text), ⟨(l.after s₀ events).storage.nextId, p⟩⟩)
    (last : ∀ name, l.lastCompiled s₀ name (.load other :: events) =
      if other = name then some (Digest.ofText text, ⟨(l.after s₀ events).storage.nextId, p⟩)
      else l.lastCompiled s₀ name events)
    (successes : l.successes s₀ (.load other :: events) = l.successes s₀ events + 1) :
    l.Settled s₀ (.load other :: events) where
  entries used name := by
    have old := h.entries used name
    rw [after, last]
    simp only [LoaderState.keep, Bindings.get?_insert]
    by_cases here : other = name
    · subst here
      rw [if_pos rfl, if_pos rfl]
      rfl
    · rw [if_neg fun same => here same.symm, if_neg here]
      exact old
  below := by
    rw [after]
    intro name entry kept
    simp only [LoaderState.keep, Bindings.get?_insert] at kept
    split at kept
    · cases kept
      exact Nat.lt_succ_self _
    · exact Nat.lt_succ_of_lt (h.below name entry kept)
  counted := by
    rw [after, successes, ← h.counted]
    exact Nat.add_right_comm ..

theorem Settled.load (h : l.Settled s₀ events) (own : l.IsPrivate) (other : String) :
    l.Settled s₀ (.load other :: events) := by
  obtain ⟨log, same⟩ := load_eq own other (l.after s₀ events)
  have last := fun name => lastCompiled_load own s₀ name other events
  have after := l.after_load s₀ other events
  have successes := l.successes_load s₀ other events
  rw [same] at after successes
  generalize l.answerIn other (l.after s₀ events) = answer at last after successes
  cases answer with
  | failed e =>
    exact h.of_memory after rfl (Nat.le_refl _) (fun _ => last) (successes ▸ h.counted)
  | hit entry =>
    have counted := congrArg Nat.succ h.counted
    exact h.of_memory after rfl (Nat.le_refl _) (fun _ => last) (successes ▸ counted)
  | made text p =>
    simp only [Answer.result] at successes
    simp only [Answer.leaves] at after
    by_cases anew : l.options.strategy = .none
    · rw [if_pos anew] at after
      apply h.of_memory after rfl (Nat.le_succ _) fun used => absurd anew used
      rw [successes, ← h.counted]
      exact Nat.add_right_comm ..
    · rw [if_neg anew] at after
      exact h.of_kept after last successes

/-- Compiling a text counts if it succeeds, and it leaves the entries as they are. -/
theorem Settled.loadText (h : l.Settled s₀ events) (name text : String) :
    l.Settled s₀ (.loadText name text :: events) := by
  obtain ⟨log, same⟩ := l.compile_eq name text (l.after s₀ events)
  have after : l.after s₀ (.loadText name text :: events) =
      (l.compile name text (l.after s₀ events)).2 := rfl
  have successes : l.successes s₀ (.loadText name text :: events) =
      match (some (l.compile name text (l.after s₀ events)).1 : Option (Except Error Loaded)) with
      | some (.ok _) => l.successes s₀ events + 1
      | _ => l.successes s₀ events := rfl
  rw [same] at after successes
  cases compiled : l.compiled name text with
  | error e =>
    rw [compiled] at after successes
    exact h.of_memory after rfl (Nat.le_refl _) (fun _ _ => rfl) (successes ▸ h.counted)
  | ok p =>
    rw [compiled] at after successes
    apply h.of_memory after rfl (Nat.le_succ _) fun _ _ => rfl
    rw [successes, ← h.counted]
    exact Nat.add_right_comm ..

theorem settled (own : l.IsPrivate) (unused : s₀.IsUnused) (events : List Event) :
    l.Settled s₀ events := by
  induction events with
  | nil =>
    obtain ⟨memory, stats⟩ := unused
    constructor
    · intro _ name
      rw [after, memory]
      rfl
    · rw [after, memory]
      exact nofun
    · rw [after, stats]
      rfl
  | cons event events ih =>
    cases event with
    | edit | remove => exact ⟨ih.entries, ih.below, ih.counted⟩
    | load name => exact ih.load own name
    | loadText name text => exact ih.loadText name text

/-- The states differ in the identities from `first` on, of which `k` more were given out,
and in the log. -/
structure Shifted (first k : Nat) (s s' : LoaderState) : Prop where
  templates : s'.storage.templates = s.storage.templates
  nextId : s'.storage.nextId = s.storage.nextId + k
  above : first ≤ s.storage.nextId
  memory : ∀ name, s'.storage.memory.get? name =
    (s.storage.memory.get? name).map (CacheEntry.shift first k)
  hits : s'.stats.cacheHits = s.stats.cacheHits
  compilations : s'.stats.compilations = s.stats.compilations + k

def Answer.shift (first k : Nat) : Answer → Answer
  | .hit entry => .hit (entry.shift first k)
  | answer => answer

theorem answerAnew_shift (source? : Option String) :
    (l.answerAnew name source?).shift n k = l.answerAnew name source? := by
  unfold answerAnew
  split
  · rfl
  · split <;> rfl

theorem answer_shift (source? : Option String) (cached? : Option CacheEntry) :
    l.answer name source? (cached?.map (CacheEntry.shift n k)) =
      (l.answer name source? cached?).shift n k := by
  unfold answer
  cases l.options.strategy with
  | none => exact (answerAnew_shift source?).symm
  | memoryOnly =>
    cases cached? with
    | none => exact (answerAnew_shift source?).symm
    | some entry => rfl
  | freshnessChecked =>
    cases cached? with
    | none => exact (answerAnew_shift source?).symm
    | some entry =>
      cases source? with
      | none => rfl
      | some text =>
        simp only [Option.map_some, CacheEntry.shift]
        split
        · rfl
        · exact (answerAnew_shift _).symm

theorem shift_of_le {id : Nat} (above : n ≤ id) (p : Program) :
    (⟨id, p⟩ : Loaded).shift n k = ⟨id + k, p⟩ := by
  simp [Loaded.shift, Nat.not_lt.mpr above]

theorem shift_of_lt {p : Loaded} (below : p.id < n) : p.shift n k = p := by
  simp [Loaded.shift, below]

theorem result_shift {id : Nat} (above : n ≤ id) (a : Answer) :
    (a.shift n k).result (id + k) = (a.result id).map (Loaded.shift n k) := by
  cases a with
  | failed | hit => rfl
  | made text p => exact congrArg Except.ok (shift_of_le above p).symm

theorem Shifted.identified (h : Shifted n k s s') : Shifted n k s.identified s'.identified where
  templates := h.templates
  nextId := by
    simp only [LoaderState.identified, h.nextId]
    omega
  above := Nat.le_succ_of_le h.above
  memory := h.memory
  hits := h.hits
  compilations := by
    simp only [LoaderState.identified, h.compilations]
    omega

theorem Shifted.keep (h : Shifted n k s s') (entry : CacheEntry) :
    Shifted n k (s.keep entry) (s'.keep (entry.shift n k)) where
  templates := h.templates
  nextId := h.nextId
  above := h.above
  memory other := by
    have name : (entry.shift n k).name = entry.name := rfl
    simp only [LoaderState.keep, Bindings.get?_insert, name]
    split
    · rfl
    · exact h.memory other
  hits := h.hits
  compilations := h.compilations

theorem Shifted.withLog (h : Shifted n k s s') (log log' : List LogEvent) :
    Shifted n k (s.withLog log) (s'.withLog log') :=
  ⟨h.templates, h.nextId, h.above, h.memory, h.hits, h.compilations⟩

theorem Shifted.leaves (h : Shifted n k s s') (a : Answer) :
    Shifted n k (a.leaves l name s) ((a.shift n k).leaves l name s') := by
  cases a with
  | failed => exact h
  | hit entry =>
    exact ⟨h.templates, h.nextId, h.above, h.memory, congrArg Nat.succ h.hits, h.compilations⟩
  | made text p =>
    simp only [Answer.shift, Answer.leaves]
    split
    · exact h.identified
    · have kept := h.identified.keep ⟨name, l.token (Digest.ofText text), ⟨s.storage.nextId, p⟩⟩
      rwa [CacheEntry.shift, shift_of_le h.above, ← h.nextId] at kept

/-- Loads in states that are shifted give the same, up to the shift. -/
theorem Shifted.load (h : Shifted n k s s') (own : l.IsPrivate) (name : String) :
    (l.load name s').1 = (l.load name s).1.map (Loaded.shift n k) ∧
      Shifted n k (l.load name s).2 (l.load name s').2 := by
  obtain ⟨log, same⟩ := load_eq own name s
  obtain ⟨log', same'⟩ := load_eq own name s'
  rw [answerIn, h.templates, h.memory, answer_shift, h.nextId] at same'
  rw [same, same']
  exact ⟨result_shift h.above _, (h.withLog log log').leaves _⟩

theorem Shifted.loadText (h : Shifted n k s s') (name text : String) :
    Shifted n k (l.loadText name text s).2 (l.loadText name text s').2 := by
  obtain ⟨log, same⟩ := l.compile_eq name text s
  obtain ⟨log', same'⟩ := l.compile_eq name text s'
  show Shifted n k (l.compile name text s).2 (l.compile name text s').2
  rw [same, same']
  cases l.compiled name text with
  | error e => exact h.withLog log log'
  | ok p => exact (h.withLog log log').identified

theorem Shifted.perform (h : Shifted n k s s') (own : l.IsPrivate) (event : Event) :
    Shifted n k (event.perform l s).2 (event.perform l s').2 := by
  cases event with
  | edit name text | remove name =>
    refine ⟨?_, h.nextId, h.above, h.memory, h.hits, h.compilations⟩
    simp only [Event.perform, h.templates]
  | load name => exact (h.load own name).2
  | loadText name text => exact h.loadText name text

/-- What happens later does not undo a shift, and does not add to it. -/
theorem Shifted.after (h : Shifted n k (l.after s₀ events) s') (own : l.IsPrivate)
    (later : List Event) : Shifted n k (l.after s₀ (later ++ events)) (l.after s' later) := by
  induction later with
  | nil => exact h
  | cons event later ih => exact ih.perform own event

theorem after_append (l : Loader) (s₀ : LoaderState) (later events : List Event) :
    l.after s₀ (later ++ events) = l.after (l.after s₀ events) later := by
  induction later with
  | nil => rfl
  | cons event later ih => exact congrArg (fun s => (event.perform l s).2) ih

/-- Nothing is kept under the identities that are still to be given out. -/
theorem Settled.shifted (h : l.Settled s₀ events) (log : List LogEvent) :
    Shifted (l.after s₀ events).storage.nextId 0 (l.after s₀ events)
        ((l.after s₀ events).withLog log) ∧
      Shifted (l.after s₀ events).storage.nextId 1 (l.after s₀ events)
        ((l.after s₀ events).withLog log).identified := by
  have same (k : Nat) (name : String) : (l.after s₀ events).storage.memory.get? name =
      ((l.after s₀ events).storage.memory.get? name).map
        (CacheEntry.shift (l.after s₀ events).storage.nextId k) := by
    cases kept : (l.after s₀ events).storage.memory.get? name with
    | none => rfl
    | some entry => simp [CacheEntry.shift, shift_of_lt (h.below name entry kept)]
  constructor
  · exact ⟨rfl, rfl, Nat.le_refl _, same 0, rfl, rfl⟩
  · exact ⟨rfl, rfl, Nat.le_refl _, same 1, rfl, rfl⟩

/-- A load that fails changes nothing but the log. -/
theorem log_of_failed (own : l.IsPrivate) {event : Event} {e : Error}
    (failed : (event.perform l s).1 = some (.error e)) :
    ∃ log, (event.perform l s).2 = s.withLog log := by
  cases event with
  | edit | remove => cases failed
  | load name =>
    obtain ⟨log, same⟩ := load_eq own name s
    refine ⟨log, ?_⟩
    simp only [Event.perform, same] at failed ⊢
    generalize l.answerIn name s = a at failed ⊢
    cases a with
    | failed => rfl
    | hit | made => cases failed
  | loadText name text =>
    obtain ⟨log, same⟩ := l.compile_eq name text s
    refine ⟨log, ?_⟩
    simp only [Event.perform, Loader.loadText, same] at failed ⊢
    cases compiled : l.compiled name text with
    | error e => rfl
    | ok p =>
      rw [compiled] at failed
      cases failed

/-- Loads that follow give the same after states that are shifted. -/
theorem Shifted.later (h : Shifted n k (l.after s₀ events) s') (own : l.IsPrivate)
    (later : List Event) (name : String) :
    (l.load name (l.after s' later)).1 =
        (l.load name (l.after s₀ (later ++ events))).1.map (Loaded.shift n k) ∧
      (l.load name (l.after s' later)).2.stats.cacheHits =
        (l.load name (l.after s₀ (later ++ events))).2.stats.cacheHits := by
  obtain ⟨same, shifted⟩ := (h.after own later).load own name
  exact ⟨same, shifted.hits⟩

/-- The load was served from the cache. -/
def Hit (s s' : LoaderState) : Prop := s'.stats = s.countHit.stats

/-- The load compiled a text. -/
def Compiles (s s' : LoaderState) : Prop := s'.stats = s.countCompilation.stats

/-- What a loader of its own does after some events, by the loads that compiled. -/
structure Reuses (l : Loader) (s₀ : LoaderState) (events : List Event) : Prop where
  counted : (l.after s₀ events).stats.compilations + (l.after s₀ events).stats.cacheHits =
    l.successes s₀ events
  anew : l.options.strategy = .none → ∀ name loaded s',
    l.load name (l.after s₀ events) = (.ok loaded, s') → Compiles (l.after s₀ events) s'
  once : l.options.strategy = .memoryOnly → ∀ name,
    (∀ last, l.lastCompiled s₀ name events = some last →
      (l.load name (l.after s₀ events)).1 = .ok last.2 ∧
        Hit (l.after s₀ events) (l.load name (l.after s₀ events)).2) ∧
    (l.lastCompiled s₀ name events = none → ∀ loaded s',
      l.load name (l.after s₀ events) = (.ok loaded, s') → Compiles (l.after s₀ events) s')
  checked : l.options.strategy = .freshnessChecked → ∀ name,
    (∀ text last, (l.after s₀ events).storage.templates.get? name = some text →
      l.lastCompiled s₀ name events = some last → last.1 = Digest.ofText text →
      (l.load name (l.after s₀ events)).1 = .ok last.2 ∧
        Hit (l.after s₀ events) (l.load name (l.after s₀ events)).2) ∧
    ((¬ ∃ text last, (l.after s₀ events).storage.templates.get? name = some text ∧
      l.lastCompiled s₀ name events = some last ∧ last.1 = Digest.ofText text) → ∀ loaded s',
      l.load name (l.after s₀ events) = (.ok loaded, s') → Compiles (l.after s₀ events) s')
  /-- A load that fails is as if it had not been. -/
  failed : ∀ event e, (event.perform l (l.after s₀ events)).1 = some (.error e) →
    (l.after s₀ (event :: events)).stats = (l.after s₀ events).stats ∧ ∀ later name,
      (l.load name (l.after s₀ (later ++ event :: events))).1 =
          (l.load name (l.after s₀ (later ++ events))).1 ∧
        (l.load name (l.after s₀ (later ++ event :: events))).2.stats.cacheHits =
          (l.load name (l.after s₀ (later ++ events))).2.stats.cacheHits
  /-- A text that is compiled takes up an identity, if any, and leaves no other trace. -/
  texts : ∀ name text, ∃ k ≤ 1, ∀ later other,
    (l.load other (l.after s₀ (later ++ .loadText name text :: events))).1 =
        (l.load other (l.after s₀ (later ++ events))).1.map
          (Loaded.shift (l.after s₀ events).storage.nextId k) ∧
      (l.load other (l.after s₀ (later ++ .loadText name text :: events))).2.stats.cacheHits =
        (l.load other (l.after s₀ (later ++ events))).2.stats.cacheHits

/-- A load that compiles, or fails, if nothing can be used again. -/
theorem compiles_of_anew (own : l.IsPrivate)
    (anew : l.answerIn name s = l.answerAnew name (s.storage.templates.get? name)) {loaded : Loaded}
    (loads : l.load name s = (.ok loaded, s')) : Compiles s s' := by
  obtain ⟨log, same⟩ := load_eq own name s
  rw [anew, loads] at same
  obtain ⟨result, state⟩ := Prod.mk.inj same
  subst state
  unfold Compiles
  rw [stats_leaves]
  unfold answerAnew at result ⊢
  split at result
  · cases result
  · split at result
    · cases result
    · rfl

theorem hit_of_answer (own : l.IsPrivate) {entry : CacheEntry}
    (hit : l.answerIn name s = .hit entry) :
    (l.load name s).1 = .ok entry.loaded ∧ Hit s (l.load name s).2 := by
  obtain ⟨log, same⟩ := load_eq own name s
  rw [same, hit]
  exact ⟨rfl, rfl⟩

/-- What is loaded once is used whatever has become of the text. -/
theorem Settled.answer_once (h : l.Settled s₀ events) (strategy : l.options.strategy = .memoryOnly)
    (name : String) :
    l.answerIn name (l.after s₀ events) = match l.lastCompiled s₀ name events with
      | some last => .hit (l.entryOf name last)
      | none => l.answerAnew name ((l.after s₀ events).storage.templates.get? name) := by
  rw [answerIn, h.entries (by simp [strategy])]
  cases l.lastCompiled s₀ name events with
  | none => exact answer_of_none
  | some last => simp only [answer, strategy, Option.map_some]

/-- What is checked is used as long as the text is the one that was compiled last. -/
theorem Settled.answer_checked (h : l.Settled s₀ events)
    (strategy : l.options.strategy = .freshnessChecked) (name : String) :
    l.answerIn name (l.after s₀ events) =
      match l.lastCompiled s₀ name events, (l.after s₀ events).storage.templates.get? name with
      | some last, some text =>
        if last.1 = Digest.ofText text then .hit (l.entryOf name last)
        else l.answerAnew name (some text)
      | _, source? => l.answerAnew name source? := by
  rw [answerIn, h.entries (by simp [strategy])]
  cases l.lastCompiled s₀ name events with
  | none => exact answer_of_none
  | some last =>
    cases (l.after s₀ events).storage.templates.get? name with
    | none => simp only [answer, strategy, Option.map_some]
    | some text =>
      simp only [answer, strategy, Option.map_some, entryOf, isFresh_token, beq_iff_eq]

/-- A loader of its own uses a program again if its strategy allows for it, and only the
program of the last load of the name that compiled. -/
theorem reuse_after_events (l : Loader) (own : l.IsPrivate) (s₀ : LoaderState)
    (unused : s₀.IsUnused) (events : List Event) : l.Reuses s₀ events := by
  have settled := settled own unused events
  constructor
  case counted => exact settled.counted
  case anew =>
    intro strategy name loaded s' loads
    refine compiles_of_anew own ?_ loads
    simp only [answerIn, answer, strategy]
  case once =>
    intro strategy name
    have answer := settled.answer_once strategy name
    constructor
    · intro last known
      rw [known] at answer
      exact hit_of_answer own answer
    · intro none loaded s' loads
      rw [none] at answer
      exact compiles_of_anew own answer loads
  case checked =>
    intro strategy name
    have answer := settled.answer_checked strategy name
    constructor
    · intro text last found known same
      simp only [known, found, if_pos same] at answer
      exact hit_of_answer own answer
    · intro stale loaded s' loads
      refine compiles_of_anew own ?_ loads
      rw [answer]
      split
      · next last text known found =>
        rw [found, if_neg fun same => stale ⟨text, last, found, known, same⟩]
      · rfl
  case failed =>
    intro event e failed
    obtain ⟨log, same⟩ := log_of_failed own failed
    have next : l.after s₀ (event :: events) = (l.after s₀ events).withLog log := same
    refine ⟨by rw [next]; rfl, fun later name => ?_⟩
    have shifted := (settled.shifted log).1.later own later name
    have plain : Loaded.shift (l.after s₀ events).storage.nextId 0 = id := by
      funext p
      simp [Loaded.shift]
    rw [after_append, next, shifted.1, plain]
    refine ⟨?_, shifted.2⟩
    cases (l.load name (l.after s₀ (later ++ events))).1 <;> rfl
  case texts =>
    intro name text
    obtain ⟨log, same⟩ := l.compile_eq name text (l.after s₀ events)
    have next : l.after s₀ (.loadText name text :: events) =
        (l.compile name text (l.after s₀ events)).2 := rfl
    rw [same] at next
    cases compiled : l.compiled name text with
    | error e =>
      refine ⟨0, Nat.zero_le 1, fun later other => ?_⟩
      rw [after_append l s₀ later, next, compiled]
      exact (settled.shifted log).1.later own later other
    | ok p =>
      refine ⟨1, Nat.le_refl 1, fun later other => ?_⟩
      rw [after_append l s₀ later, next, compiled]
      exact (settled.shifted log).2.later own later other

end Loader

namespace Returning

/-- A loader with all defaults. -/
def loader : Loader := ⟨.memory, .memory, .tterse, ⟨true⟩, {}⟩

def first : LoaderState := .start { Storage.empty with templates := [("greeting", "hello")] }

/-- The template is loaded, removed and registered again as it was. -/
def events : List Loader.Event := [.edit "greeting" "hello", .remove "greeting", .load "greeting"]

theorem reuse_after_events_greeting :
    loader.IsPrivate ∧ first.IsUnused ∧
      Loader.Hit (loader.after first events) (loader.load "greeting" (loader.after first events)).2 := by
  have own : loader.IsPrivate := ⟨rfl, rfl⟩
  have unused : first.IsUnused := ⟨rfl, rfl⟩
  refine ⟨own, unused, ?_⟩
  have last : loader.lastCompiled first "greeting" events = some (Digest.ofText "hello", ⟨0, {
      name := "greeting"
      constants := #[.str "hello"]
      names := #[]
      macros := #[]
      instructions := #[.constLoad 0, .print .raw, .finish] }⟩) := rfl
  have reuse := (Loader.reuse_after_events loader own first unused events).checked rfl "greeting"
  exact (reuse.1 "hello" _ rfl last rfl).2

end Returning
end TemplateEngine
