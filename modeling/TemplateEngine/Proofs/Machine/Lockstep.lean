import TemplateEngine.Proofs.Machine.Alike
import TemplateEngine.Proofs.Machine.Reaches

/-!
# Runs in lockstep

Two machines that start alike and find the same templates, though under identities of
their own, run in lockstep and end alike, as long as the first one never gets into a
state where it would matter if runs of one template were confused. Each load links an
identity of the one run to one of the other.
-/

namespace TemplateEngine

variable {ω ω' : Type}

/-- Which identities belong together, and the template they were loaded for; no
template, if they come with the variables. -/
abbrev Links := Nat → Nat → Option String → Prop

namespace Links

def Linked (K : Links) (i j : Nat) : Prop := ∃ owner, K i j owner

/-- One more load. -/
def add (K : Links) (i j : Nat) (name : String) : Links := fun i' j' owner =>
  K i' j' owner ∨ i' = i ∧ j' = j ∧ owner = some name

/-- Each identity of the first run has one place, and those of one place one owner. -/
structure Coherent (K : Links) : Prop where
  functional : ∀ {i j j' owner owner'}, K i j owner → K i j' owner' → j = j'
  owned : ∀ {i i' j owner owner'}, K i j owner → K i' j owner' → owner = owner'
  foreign : ∀ {i j}, K i j none → i = j

theorem linked_add (K : Links) (i j : Nat) (name : String) : (K.add i j name).Linked i j :=
  ⟨some name, .inr ⟨rfl, rfl, rfl⟩⟩

theorem add_mono (K : Links) (i j : Nat) (name : String) (i' j' : Nat) (h : K.Linked i' j') :
    (K.add i j name).Linked i' j' := by
  obtain ⟨owner, known⟩ := h
  exact ⟨owner, .inl known⟩

end Links

structure Waiting.Alike (R : Nat → Nat → Prop) (w w' : Waiting) : Prop where
  name : w'.name = w.name
  level : w.level.Alike R w'.level

/-- The machines differ at most in their surroundings and in identities. -/
structure Machine.Alike (R : Nat → Nat → Prop) (m : Machine ω) (m' : Machine ω') : Prop where
  level : m.level.Alike R m'.level
  outer : List.Forall₂ (Waiting.Alike R) m.outer m'.outer
  steps : m'.steps = m.steps
  accepted : m'.accepted = m.accepted

/-- The outcomes give the same output and the same error. -/
structure Outcome.Alike (o : Outcome ω) (o' : Outcome ω') : Prop where
  written : o'.level.written = o.level.written
  steps : o'.steps = o.steps
  accepted : o'.accepted = o.accepted
  error : o'.error = o.error

section Texts

variable {R S : Nat → Nat → Prop}

theorem Level.Alike.pass {l l' : Level} (h : l.Alike R l') (text : String) :
    (l.pass text).Alike R (l'.pass text) :=
  { h with written := congrArg (· + text.utf8ByteSize) h.written }

theorem Level.Alike.capture? {l l' : Level} (h : l.Alike R l') (text : String) :
    Option.Rel (Level.Alike R) (l.capture? text) (l'.capture? text) := by
  unfold Level.capture?
  rw [h.calls]
  split
  · exact .none
  · exact .some { h with calls := rfl }

theorem Waiting.Alike.mono (sub : ∀ i j, R i j → S i j) {w w' : Waiting} (h : w.Alike R w') :
    w.Alike S w' :=
  ⟨h.name, h.level.mono sub⟩

theorem Waiting.capture?_alike (text : String) {outer outer' : List Waiting}
    (h : List.Forall₂ (Waiting.Alike R) outer outer') :
    Option.Rel (List.Forall₂ (Waiting.Alike R)) (Waiting.capture? text outer)
      (Waiting.capture? text outer') := by
  induction h with
  | nil => exact .none
  | @cons w w' rest rest' first others ih =>
    have captured := first.level.capture? text
    rw [Waiting.capture?, Waiting.capture?]
    generalize w.level.capture? text = level at captured
    generalize w'.level.capture? text = level' at captured
    cases captured with
    | some alike => exact .some (.cons ⟨first.name, alike⟩ others)
    | none =>
      dsimp only
      generalize Waiting.capture? text rest = outer at ih
      generalize Waiting.capture? text rest' = outer' at ih
      cases ih with
      | none => exact .none
      | some all => exact .some (.cons ⟨first.name, first.level.pass text⟩ all)

theorem Waiting.passAll_alike (text : String) {outer outer' : List Waiting}
    (h : List.Forall₂ (Waiting.Alike R) outer outer') :
    List.Forall₂ (Waiting.Alike R) (Waiting.passAll text outer) (Waiting.passAll text outer') := by
  induction h with
  | nil => exact .nil
  | cons first _ ih => exact .cons ⟨first.name, first.level.pass text⟩ ih

theorem Waiting.foldl_around_alike {outer outer' : List Waiting}
    (h : List.Forall₂ (Waiting.Alike R) outer outer') (e : RuntimeError) :
    outer'.foldl (fun e w => e.around w.name) e = outer.foldl (fun e w => e.around w.name) e := by
  induction h generalizing e with
  | nil => rfl
  | cons first _ ih =>
    rw [List.foldl_cons, List.foldl_cons, first.name]
    exact ih _

theorem Waiting.getLast?_alike {outer outer' : List Waiting}
    (h : List.Forall₂ (Waiting.Alike R) outer outer') :
    Option.Rel (Waiting.Alike R) outer.getLast? outer'.getLast? := by
  rw [List.getLast?_eq_getElem?, List.getLast?_eq_getElem?, h.length_eq]
  exact rel_getElem? h _

end Texts

namespace Machine

variable {R S : Nat → Nat → Prop} {m : Machine ω} {m' : Machine ω'}

theorem Alike.mono (sub : ∀ i j, R i j → S i j) (h : m.Alike R m') : m.Alike S m' :=
  ⟨h.level.mono sub, h.outer.imp fun _ _ alike => alike.mono sub, h.steps, h.accepted⟩

theorem Alike.withLevel (h : m.Alike R m') {level level' : Level} (hl : level.Alike R level') :
    ({ m with level := level } : Machine ω).Alike R { m' with level := level' } :=
  { h with level := hl }

theorem Alike.write (h : m.Alike R m') (sink : Sink) (text : String) :
    ExceptRel (fun n n' => n.Alike R n' ∧ n.surroundings = m.surroundings ∧
      n'.surroundings = m'.surroundings) (m.write sink text) (m'.write sink text) := by
  have captured := h.level.capture? text
  unfold Machine.write
  generalize m.level.capture? text = level at captured
  generalize m'.level.capture? text = level' at captured
  cases captured with
  | some alike => exact .ok ⟨h.withLevel alike, rfl, rfl⟩
  | none =>
    have passed := Waiting.capture?_alike text h.outer
    dsimp only
    generalize Waiting.capture? text m.outer = outer at passed
    generalize Waiting.capture? text m'.outer = outer' at passed
    cases passed with
    | some all => exact .ok ⟨{ h with level := h.level.pass text, outer := all }, rfl, rfl⟩
    | none =>
      have all := Waiting.passAll_alike text h.outer
      dsimp only
      rw [h.accepted]
      split
      · exact .error _
      · exact .ok ⟨⟨h.level.pass text, all, h.steps, rfl⟩, rfl, rfl⟩

theorem Alike.outcome (h : m.Alike R m') {level level' : Level} (same : level'.written = level.written)
    (error : Option RuntimeError) : (m.outcome level error).Alike (m'.outcome level' error) :=
  ⟨same, h.steps, h.accepted, rfl⟩

theorem Alike.abort (h : m.Alike R m') (e : RuntimeError) : (m.abort e).Alike (m'.abort e) := by
  have last := Waiting.getLast?_alike h.outer
  unfold Machine.abort
  rw [Waiting.foldl_around_alike h.outer]
  apply h.outcome
  generalize m.outer.getLast? = outermost at last
  generalize m'.outer.getLast? = outermost' at last
  cases last with
  | none => exact h.level.written
  | some alike => exact alike.level.written

theorem includedVars_alike {R : Nat → Nat → Prop} {l l' : Level} (h : l.Alike R l') {args args' : Value}
    (ha : args.Alike R args') :
    ExceptRel (Bindings.Alike R) (includedVars l args) (includedVars l' args') := by
  cases ha with
  | plain plain =>
    cases args with
    | list _ | map _ | macroRef _ => exact plain.elim
    | undef => exact .ok h.scope.visible
    | _ => exact .error _
  | list _ | macroRef _ => exact .error _
  | map entries => exact .ok (h.scope.visible.insertAll entries)

/-- Looking for a template fails for the same reason in both surroundings, or both times
it is found. -/
inductive FindsAlike (E : Loaded → ω → Loaded → ω' → Prop) :
    Except Error Loaded × ω → Except Error Loaded × ω' → Prop
  | error (e t t') : FindsAlike E (.error e, t) (.error e, t')
  | ok {loaded loaded' t t'} : E loaded t loaded' t' → FindsAlike E (.ok loaded, t) (.ok loaded', t')

variable {env : Environment ω} {env' : Environment ω'} {T : Progress ω → Progress ω' → Prop}
  {E : Loaded → ω → Loaded → ω' → Prop}

/-- What two inclusions lead to, given what their loads lead to: `T` is what is to be shown of
the two ways to go on. -/
theorem Alike.enter_of (h : m.Alike R m') (options : env'.options = env.options) (name : String)
    {args args' : Value} (ha : args.Alike R args')
    (finds : Option.Rel (fun source source' =>
      FindsAlike E (source name m.surroundings) (source' name m'.surroundings)) env.source env'.source)
    (ended : ∀ {o o'}, o.Alike o' → T (.inr o) (.inr o'))
    (entered : ∀ {loaded loaded' vars vars' t t'}, E loaded t loaded' t' → Bindings.Alike R vars vars' →
      T (.inl { m with
          level := .start loaded vars (m.level.depth + 1)
          outer := ⟨name, m.level⟩ :: m.outer
          surroundings := t })
        (.inl { m' with
          level := .start loaded' vars' (m.level.depth + 1)
          outer := ⟨name, m'.level⟩ :: m'.outer
          surroundings := t' })) :
    T (m.enter env name args) (m'.enter env' name args') := by
  have vars := includedVars_alike h.level ha
  unfold Machine.enter
  generalize env.source = given at finds
  generalize env'.source = given' at finds
  cases finds with
  | none => exact ended (h.abort _)
  | @some source source' found =>
    dsimp only
    rw [h.level.depth, h.outer.length_eq, options]
    split
    · exact ended (h.abort _)
    · split
      · exact ended (h.abort _)
      · generalize includedVars m.level args = given at vars
        generalize includedVars m'.level args' = given' at vars
        cases vars with
        | error fault =>
          dsimp only
          rw [h.level.ip]
          exact ended (h.abort _)
        | ok vars =>
          dsimp only
          generalize source name m.surroundings = result at found
          generalize source' name m'.surroundings = result' at found
          cases found with
          | error e t t' =>
            have still : ({ m with surroundings := t } : Machine ω).Alike R
              { m' with surroundings := t' } := { h with level := h.level }
            exact ended (still.abort _)
          | ok found => exact entered found vars

theorem Alike.perform_of (h : m.Alike R m') (sink : env'.sink = env.sink) {effect effect' : Effect}
    (he : effect.Alike R effect')
    (ended : ∀ {o o'}, o.Alike o' → T (.inr o) (.inr o'))
    (next : ∀ {n n'}, n.Alike R n' → n.surroundings = m.surroundings →
      n'.surroundings = m'.surroundings → T (.inl n) (.inl n'))
    (enter : ∀ {name args args' l l'}, args.Alike R args' → l.Alike R l' →
      T (({ m with level := l } : Machine ω).enter env name args)
        (({ m' with level := l' } : Machine ω').enter env' name args')) :
    T (m.perform env effect) (m'.perform env' effect') := by
  cases he with
  | next hl => exact next (h.withLevel hl) rfl rfl
  | write text hl =>
    have written := (h.withLevel hl).write env.sink text
    rw [Machine.perform, Machine.perform, sink]
    generalize ({ m with level := _ } : Machine ω).write env.sink text = result at written
    generalize ({ m' with level := _ } : Machine ω').write env.sink text = result' at written
    cases written with
    | error reason => exact ended ((h.withLevel hl).abort _)
    | ok passed =>
      obtain ⟨alike, same, same'⟩ := passed
      exact next (alike.withLevel alike.level.advance) same same'
  | enter name ha hl => exact enter ha hl
  | finish hl =>
    have waiting := h.outer
    rw [Machine.perform, Machine.perform, Machine.finish, Machine.finish]
    dsimp only
    generalize outer : m.outer = all at waiting
    generalize outer' : m'.outer = all' at waiting
    cases waiting with
    | nil => exact ended ((h.withLevel hl).outcome hl.written none)
    | cons first others =>
      exact next ⟨first.level.advance, others, h.steps, h.accepted⟩ rfl rfl
  | fail e hl => exact ended ((h.withLevel hl).abort e)

/-- Where their operation finds out the same about identities, alike machines have alike
effects to carry out, or both end. -/
theorem Alike.step_of (h : m.Alike R m') (options : env'.options = env.options)
    (agrees : ∀ op, exhausted? env.options m.steps = none → m.level.fetch = .ok op →
      m.level.AgreesOn m'.level op)
    (ended : ∀ {o o'}, o.Alike o' → T (.inr o) (.inr o'))
    (perform : ∀ {effect effect'}, effect.Alike R effect' →
      T (({ m with steps := m.steps + 1 } : Machine ω).perform env effect)
        (({ m' with steps := m.steps + 1 } : Machine ω').perform env' effect')) :
    T (m.step env) (m'.step env') := by
  have counted : ({ m with steps := m.steps + 1 } : Machine ω).Alike R
      { m' with steps := m.steps + 1 } := { h with steps := rfl }
  rw [Machine.step, Machine.step, options, h.steps]
  cases room : exhausted? env.options m.steps with
  | some limit => exact ended (h.abort _)
  | none =>
    dsimp only
    rw [h.level.fetch]
    cases fetched : m.level.fetch with
    | error defect =>
      dsimp only
      rw [h.level.ip]
      exact ended (counted.abort _)
    | ok op => exact perform (h.level.execute env.options (agrees op room fetched))

/-- What a step of both machines leads to, `i` and `j` being loaded in it or not. -/
inductive Together (I : Links → ω → ω' → Prop) (K : Links) : Progress ω → Progress ω' → Prop
  | next {n n'} : n.Alike K.Linked n' → I K n.surroundings n'.surroundings →
      Together I K (.inl n) (.inl n')
  | entered {n n'} (i j name) : n.Alike (K.add i j name).Linked n' →
      I (K.add i j name) n.surroundings n'.surroundings →
      n.level.loaded.id = i → n.level.loaded.program.name = name →
      Together I K (.inl n) (.inl n')
  | ended {o o'} : o.Alike o' → Together I K (.inr o) (.inr o')

end Machine

/-- The environments differ at most in the surroundings and in the identities under
which templates are found, and that the two surroundings keep in step. -/
structure Environment.Agree (I : Links → ω → ω' → Prop) (env : Environment ω) (env' : Environment ω') :
    Prop where
  options : env'.options = env.options
  sink : env'.sink = env.sink
  coherent : ∀ {K s s'}, I K s s' → K.Coherent
  source : ∃ source source', env.source = some source ∧ env'.source = some source' ∧
    ∀ {K s s'} name, I K s s' →
      (∃ e t t', source name s = (.error e, t) ∧ source' name s' = (.error e, t')) ∨
      ∃ i j p t t', source name s = (.ok ⟨i, p⟩, t) ∧ source' name s' = (.ok ⟨j, p⟩, t') ∧
        p.name = name ∧ I (K.add i j name) t t'

namespace Machine

variable {I : Links → ω → ω' → Prop} {K : Links} {env : Environment ω} {env' : Environment ω'}
  {m first : Machine ω} {m' : Machine ω'} {n : Nat}

theorem Alike.enter (agree : env.Agree I env') (h : m.Alike K.Linked m')
    (inv : I K m.surroundings m'.surroundings) (name : String) {args args' : Value}
    (ha : args.Alike K.Linked args') :
    Together I K (m.enter env name args) (m'.enter env' name args') := by
  obtain ⟨source, source', found, found', loads⟩ := agree.source
  have finds : FindsAlike (fun loaded t loaded' t' => loaded'.program = loaded.program ∧
      loaded.program.name = name ∧ I (K.add loaded.id loaded'.id name) t t')
      (source name m.surroundings) (source' name m'.surroundings) := by
    rcases loads name inv with ⟨e, t, t', fails, fails'⟩ | ⟨i, j, p, t, t', gives, gives', named, inv'⟩
    · rw [fails, fails']
      exact .error e t t'
    · rw [gives, gives']
      exact .ok ⟨rfl, named, inv'⟩
  apply h.enter_of agree.options name ha
  · rw [found, found']
    exact .some finds
  · exact .ended
  · rintro loaded loaded' vars vars' t t' ⟨program, named, inv'⟩ alike_vars
    have more := K.add_mono loaded.id loaded'.id name
    refine .entered loaded.id loaded'.id name ?_ inv' rfl named
    refine ⟨?_, .cons ⟨rfl, h.level.mono more⟩ (h.mono more).outer, h.steps, h.accepted⟩
    apply Level.alike_start
    · exact program
    · exact K.linked_add loaded.id loaded'.id name
    · exact Value.entries_mono more alike_vars

theorem Alike.perform (agree : env.Agree I env') (h : m.Alike K.Linked m')
    (inv : I K m.surroundings m'.surroundings) {effect effect' : Effect}
    (he : effect.Alike K.Linked effect') :
    Together I K (m.perform env effect) (m'.perform env' effect') := by
  apply h.perform_of agree.sink he
  · exact .ended
  · intro n n' alike same same'
    refine .next alike ?_
    rw [same, same']
    exact inv
  · exact fun ha hl => (h.withLevel hl).enter agree inv _ ha

/-- The machine that starts as `first` runs a template of the name under the identity. -/
def Runs (env : Environment ω) (first : Machine ω) (i : Nat) (name : String) : Prop :=
  ∃ n m, Reaches env n first m ∧ m.level.loaded.id = i ∧ m.level.loaded.program.name = name

/-- Both identities are runs of one template. -/
def OneTemplate (env : Environment ω) (first : Machine ω) (i j : Nat) : Prop :=
  ∃ name, Runs env first i name ∧ Runs env first j name

/-- No operation depends on which run of a template a macro belongs to. -/
def Unmixed (env : Environment ω) (first : Machine ω) : Prop :=
  ∀ n m op, Reaches env n first m → exhausted? env.options m.steps = none → m.level.fetch = .ok op →
    m.level.Unmixed (OneTemplate env first) op

/-- No two values are compared, and a macro that is called belongs to the caller. -/
def keepsApart (l : Level) : Program.Resolved → Bool
  | .binOp .eq | .binOp .ne => false
  | .macroCall count =>
    match l.stack.drop count with
    | .macroRef ref :: _ => ref.program == l.loaded.id
    | _ => true
  | _ => true

theorem unmixed_of_keepsApart {one : Nat → Nat → Prop} {l : Level} {op : Program.Resolved}
    (h : keepsApart l op = true) : l.Unmixed one op := by
  constructor
  · rintro args ref stack rfl taken _
    have below : l.stack.drop args.length = .macroRef ref :: stack := by rw [taken, List.drop_left]
    simpa [keepsApart, below] using h
  · rintro left right stack other (rfl | rfl)
    · cases h
    · cases h

/-- A check of a whole run, step by step. -/
def staysApart (env : Environment ω) : Nat → Machine ω → Bool
  | 0, _ => false
  | fuel + 1, m =>
    (match m.level.fetch with
      | .ok op => keepsApart m.level op
      | .error _ => true) &&
    match m.step env with
    | .inl m => staysApart env fuel m
    | .inr _ => true

theorem unmixed_of_staysApart {fuel : Nat} (h : staysApart env fuel first = true) :
    Unmixed env first := by
  intro n m op reaches _ fetched
  have keeps {m m' : Machine ω} (apart : ∃ fuel, staysApart env fuel m = true)
      (next : m.step env = .inl m') : ∃ fuel, staysApart env fuel m' = true := by
    obtain ⟨fuel, apart⟩ := apart
    cases fuel with
    | zero => cases apart
    | succ fuel =>
      rw [staysApart, next, Bool.and_eq_true] at apart
      exact ⟨fuel, apart.2⟩
  obtain ⟨fuel, apart⟩ := reaches.preserves keeps ⟨fuel, h⟩
  cases fuel with
  | zero => cases apart
  | succ fuel =>
    rw [staysApart, fetched, Bool.and_eq_true] at apart
    exact unmixed_of_keepsApart apart.1

/-- The machines are in step, and what was loaded so far has been run. -/
structure Lockstep (env : Environment ω) (first : Machine ω) (I : Links → ω → ω' → Prop) (K : Links)
    (m : Machine ω) (m' : Machine ω') : Prop where
  alike : m.Alike K.Linked m'
  inv : I K m.surroundings m'.surroundings
  run : ∀ i j name, K i j (some name) → Runs env first i name

theorem Lockstep.linking (h : Lockstep env first I K m m') (agree : env.Agree I env') :
    Linking (OneTemplate env first) K.Linked := by
  have coherent := agree.coherent h.inv
  constructor
  · rintro i j j' ⟨owner, linked⟩ ⟨owner', linked'⟩
    exact coherent.functional linked linked'
  · rintro i i' j ⟨owner, linked⟩ ⟨owner', linked'⟩
    obtain rfl := coherent.owned linked linked'
    cases owner with
    | none => exact .inl ((coherent.foreign linked).trans (coherent.foreign linked').symm)
    | some name => exact .inr ⟨name, h.run i j name linked, h.run i' j name linked'⟩

theorem Lockstep.together (h : Lockstep env first I K m m') (agree : env.Agree I env')
    (unmixed : Unmixed env first) (reaches : Reaches env n first m) :
    Together I K (m.step env) (m'.step env') := by
  apply h.alike.step_of agree.options
  · exact fun op room fetched =>
      (unmixed n m op reaches room fetched).agreesOn (h.linking agree) h.alike.level
  · exact .ended
  · intro effect effect' alike
    have counted : ({ m with steps := m.steps + 1 } : Machine ω).Alike K.Linked
      { m' with steps := m.steps + 1 } := { h.alike with steps := rfl }
    exact counted.perform agree h.inv alike

/-- One step of both machines. -/
theorem Lockstep.step (h : Lockstep env first I K m m') (agree : env.Agree I env')
    (unmixed : Unmixed env first) (reaches : Reaches env n first m) :
    (∃ next next' K', m.step env = .inl next ∧ m'.step env' = .inl next' ∧
      Lockstep env first I K' next next') ∨
    ∃ o o', m.step env = .inr o ∧ m'.step env' = .inr o' ∧ o.Alike o' := by
  have together := h.together agree unmixed reaches
  generalize eq : m.step env = progress at together
  generalize eq' : m'.step env' = progress' at together
  cases together with
  | @next next next' alike inv => exact .inl ⟨next, next', K, rfl, rfl, alike, inv, h.run⟩
  | @entered next next' i j name alike inv loaded named =>
    refine .inl ⟨next, next', K.add i j name, rfl, rfl, alike, inv, ?_⟩
    rintro i' j' name' (known | ⟨rfl, rfl, same⟩)
    · exact h.run i' j' name' known
    · obtain rfl := Option.some.inj same
      exact ⟨n + 1, next, reaches.trans (.single eq), loaded, named⟩
  | ended alike => exact .inr ⟨_, _, rfl, rfl, alike⟩

/-- Machines in step end alike, or both do not end. -/
theorem Lockstep.run_alike (h : Lockstep env first I K m m') (agree : env.Agree I env')
    (unmixed : Unmixed env first) (reaches : Reaches env n first m) (fuel : Nat) :
    Option.Rel Outcome.Alike (Machine.run env fuel m) (Machine.run env' fuel m') := by
  induction fuel generalizing n K m m' with
  | zero => exact .none
  | succ fuel ih =>
    rw [Machine.run, Machine.run]
    rcases h.step agree unmixed reaches with ⟨next, next', K', eq, eq', h'⟩ | ⟨o, o', eq, eq', alike⟩
    · rw [eq, eq']
      exact ih h' (reaches.trans (.single eq))
    · rw [eq, eq']
      exact .some alike

end Machine
end TemplateEngine
