import TemplateEngine.Proofs.Machine.Failures
import TemplateEngine.Proofs.Machine.Levels

/-!
# The bounds on runs

Execution options do nothing but cut runs off. Under looser options a run is the same
run, step by step, up to the point where the stricter ones end it with an error of their
own: a bound that is exceeded or, where only the stricter ones forbid it, an unbound
variable. So what is written under stricter options is written first under looser ones.

All levels of a run stay within the bounds on macro calls and inclusions, and a run of
any program, also of one that the compiler would never make, ends within the bound on
its steps if it has one.
-/

namespace TemplateEngine

/-- The same surroundings under other options. -/
abbrev Environment.under {ω : Type} (env : Environment ω) (options : ExecutionOptions) : Environment ω :=
  { env with options := options }

/-- Nothing that the first options allow is forbidden by the second ones. -/
structure ExecutionOptions.Within (strict loose : ExecutionOptions) : Prop where
  depth : strict.maxDepth ≤ loose.maxDepth
  includeDepth : strict.maxIncludeDepth ≤ loose.maxIncludeDepth
  steps : ∀ b, loose.maxSteps = some b → ∃ a, strict.maxSteps = some a ∧ a ≤ b
  strictness : loose.strictVariables = true → strict.strictVariables = true

namespace RuntimeError

/-- The error inside of all inclusions. -/
def innermost : RuntimeError → RuntimeError
  | .included _ (.runtime e) => e.innermost
  | e => e

/-- The stricter options can stop at this error where the looser ones do not. -/
inductive Cuts (strict loose : ExecutionOptions) : RuntimeError → Prop
  | limit (l) : Cuts strict loose (.limit l)
  | unbound (ip name) : strict.strictVariables ≠ loose.strictVariables →
      Cuts strict loose (.unbound ip name)

theorem innermost_around (e : RuntimeError) (name : String) :
    (e.around name).innermost = e.innermost := by
  cases e <;> rfl

theorem innermost_foldl_around (e : RuntimeError) (outer : List Waiting) :
    (outer.foldl (fun (e : RuntimeError) w => e.around w.name) e).innermost = e.innermost := by
  induction outer generalizing e with
  | nil => rfl
  | cons w rest ih => exact (ih _).trans (innermost_around e w.name)

end RuntimeError

/-- The run ended with an error that only the stricter options may have raised. -/
inductive Outcome.CutShort {ω : Type} (strict loose : ExecutionOptions) (o : Outcome ω) : Prop
  | limit {l} : o.error = some (.limit l) → CutShort strict loose o
  | unbound {e ip name} : strict.strictVariables ≠ loose.strictVariables → o.error = some e →
      e.innermost = .unbound ip name → CutShort strict loose o

section

variable {strict loose : ExecutionOptions}

theorem Level.execute_loose (stricter : strict.Within loose) (l : Level) (op : Program.Resolved) :
    l.execute loose op = l.execute strict op ∨
      ∃ e l', l.execute strict op = .fail e l' ∧ e.Cuts strict loose := by
  cases op with
  | loadVar name =>
    cases found : l.scope.lookup name with
    | some value => exact .inl (by simp [execute, found])
    | none =>
      by_cases same : strict.strictVariables = loose.strictVariables
      · exact .inl (by simp [execute, found, same])
      · have forbidden : strict.strictVariables = true := by
          cases hs : strict.strictVariables with
          | true => rfl
          | false =>
            cases hl : loose.strictVariables with
            | false => exact absurd (hs.trans hl.symm) same
            | true => exact hs.symm.trans (stricter.strictness hl)
        exact .inr ⟨_, l, by simp [execute, found, forbidden], .unbound l.ip name same⟩
  | macroCall count =>
    have calls (l : Level) (callee : Value) (args : List Value) :
        l.call loose callee args = l.call strict callee args ∨
          ∃ e l', l.call strict callee args = .fail e l' ∧ e.Cuts strict loose := by
      have depth := stricter.depth
      unfold call
      cases callee with
      | macroRef ref =>
        dsimp only
        split
        · exact .inl rfl
        · split
          · exact .inl rfl
          · split
            · exact .inl rfl
            · by_cases exceeds : strict.maxDepth < l.depth + 1
              · rw [if_pos exceeds]
                exact .inr ⟨_, l, rfl, .limit _⟩
              · rw [if_neg exceeds, if_neg (by omega)]
                exact .inl rfl
      | _ => exact .inl rfl
    simp only [execute, popMany, pop1]
    split
    · exact .inl rfl
    · split
      · exact .inl rfl
      · exact calls _ _ _
  | _ => exact .inl rfl

end

namespace Machine

variable {ω : Type} {env : Environment ω} {loose : ExecutionOptions} {m m' : Machine ω}

theorem exhausted?_loose (stricter : env.options.Within loose) {steps : Nat}
    (free : exhausted? env.options steps = none) : exhausted? loose steps = none := by
  unfold exhausted? at free ⊢
  cases bound : loose.maxSteps with
  | none => rfl
  | some b =>
    obtain ⟨a, bound', le⟩ := stricter.steps b bound
    rw [bound'] at free
    by_cases used : a ≤ steps
    · simp [used] at free
    · have unused : ¬ b ≤ steps := by omega
      simp [unused]

theorem enter_loose (stricter : env.options.Within loose) (m : Machine ω) (name : String)
    (args : Value) : m.enter (env.under loose) name args = m.enter env name args ∨
      ∃ l, m.enter env name args = .inr (m.abort (.limit l)) := by
  have depth := stricter.depth
  have includeDepth := stricter.includeDepth
  unfold enter
  dsimp only
  split
  · exact .inl rfl
  · by_cases exceeds : env.options.maxDepth < m.level.depth + 1
    · rw [if_pos exceeds]
      exact .inr ⟨_, rfl⟩
    · rw [if_neg exceeds, if_neg (by omega)]
      by_cases too_many : env.options.maxIncludeDepth < m.outer.length + 1
      · rw [if_pos too_many]
        exact .inr ⟨_, rfl⟩
      · rw [if_neg too_many, if_neg (by omega)]
        exact .inl rfl

/-- The step is the same, or the stricter options end the run before it. -/
theorem step_loose (stricter : env.options.Within loose) (m : Machine ω) :
    m.step (env.under loose) = m.step env ∨
      ∃ (m₁ : Machine ω) (e : RuntimeError), m.step env = .inr (m₁.abort e) ∧
        e.Cuts env.options loose := by
  cases bound : exhausted? env.options m.steps with
  | some limit => exact .inr ⟨m, .limit limit, by simp [step, bound], .limit limit⟩
  | none =>
    have bound' := exhausted?_loose stricter bound
    simp only [step, bound, bound']
    cases m.level.fetch with
    | error defect => exact .inl rfl
    | ok op =>
      dsimp only
      rcases Level.execute_loose stricter m.level op with same | ⟨e, l, fails, cuts⟩
      · rw [same]
        cases m.level.execute env.options op with
        | enter name args level =>
          rcases enter_loose stricter { m with level := level, steps := m.steps + 1 } name args with
            same | ⟨l, ended⟩
          · exact .inl same
          · exact .inr ⟨_, _, ended, .limit l⟩
        | _ => exact .inl rfl
      · rw [fails]
        exact .inr ⟨_, _, rfl, cuts⟩

theorem step_of_step_inl (stricter : env.options.Within loose) (first : m.step env = .inl m') :
    m.step (env.under loose) = .inl m' := by
  rcases step_loose stricter m with same | ⟨m₁, e, ended, -⟩
  · exact same.trans first
  · cases first.symm.trans ended

/-- The step that ends a run is the same, or only the stricter options end it. -/
theorem step_of_step_inr (stricter : env.options.Within loose) {o : Outcome ω}
    (last : m.step env = .inr o) :
    m.step (env.under loose) = .inr o ∨ o.CutShort env.options loose := by
  rcases step_loose stricter m with same | ⟨m₁, e, ended, cuts⟩
  · exact .inl (same.trans last)
  · obtain rfl := Sum.inr.inj (last.symm.trans ended)
    refine .inr ?_
    cases cuts with
    | limit l => exact .limit (congrArg some (RuntimeError.foldl_around_limit l m₁.outer))
    | unbound ip name differ =>
      exact .unbound differ rfl (RuntimeError.innermost_foldl_around _ m₁.outer)

theorem Reaches.under {n : Nat} (stricter : env.options.Within loose) (h : m.Reaches env n m') :
    m.Reaches (env.under loose) n m' := by
  induction h with
  | refl m => exact .refl m
  | step first _ ih => exact .step (step_of_step_inl stricter first) ih

/-- What the sink has taken stays taken. -/
theorem accepted_write {sink : Sink} {text : String} (written : m.write sink text = .ok m') :
    m.accepted <:+ m'.accepted := by
  unfold write at written
  split at written
  · cases written
    exact List.suffix_refl _
  · split at written
    · cases written
      exact List.suffix_refl _
    · split at written
      · cases written
      · cases written
        exact List.suffix_cons _ _

theorem accepted_step (first : m.step env = .inl m') : m.accepted <:+ m'.accepted := by
  obtain ⟨op, effect, -, -, goes⟩ := exists_of_step first
  cases goes with
  | write written =>
    have kept := accepted_write written
    exact kept
  | next | enter | leave => exact List.suffix_refl _

/-- Nothing is written at the end of a run. -/
theorem accepted_of_step {o : Outcome ω} (last : m.step env = .inr o) : o.accepted = m.accepted := by
  rcases step_cases env m with ⟨steps, e, ended⟩ | ⟨op, effect, -, -, goes⟩
  · obtain rfl := Sum.inr.inj (last.symm.trans ended)
    rfl
  · rw [last] at goes
    cases goes <;> rfl

theorem Reaches.accepted {n : Nat} (h : m.Reaches env n m') : m.accepted <:+ m'.accepted := by
  induction h with
  | refl m => exact List.suffix_refl _
  | step first _ ih => exact (accepted_step first).trans ih

theorem accepted_run {fuel : Nat} {o : Outcome ω} (ended : run env fuel m = some o) :
    m.accepted <:+ o.accepted := by
  obtain ⟨n, m', -, reaches, last⟩ := run_eq_some_iff.mp ended
  rw [accepted_of_step last]
  exact reaches.accepted

/-- What has been written when a machine is reached is written first. -/
theorem Reaches.output_run {n fuel : Nat} {o : Outcome ω} (h : m.Reaches env n m')
    (ended : run env fuel m = some o) :
    ∃ more, o.output = String.join m'.accepted.reverse ++ more := by
  have later : run env (n + fuel) m = some o := run_mono (Nat.le_add_left fuel n) ended
  rw [h.run_add] at later
  obtain ⟨texts, eq⟩ := accepted_run later
  refine ⟨String.join texts.reverse, ?_⟩
  rw [Outcome.output, ← eq, List.reverse_append, String.join_append]

/-- No level has more macro calls and inclusions around it than the bound allows, and
there are no more inclusions than the bound on them alone allows. -/
structure WithinBounds (options : ExecutionOptions) (m : Machine ω) : Prop where
  level : m.level.depth ≤ options.maxDepth
  outer : ∀ w ∈ m.outer, w.level.depth ≤ options.maxDepth
  inclusions : m.outer.length ≤ options.maxIncludeDepth

end Machine

theorem Level.depth_of_blank {l l' : Level} (same : l'.blank = l.blank) : l'.depth = l.depth := by
  have calls : l'.calls.map Call.blank = l.calls.map Call.blank := congrArg Level.calls same
  have count := congrArg List.length calls
  rw [List.length_map, List.length_map] at count
  have around := congrArg Level.outerDepth same
  change l'.outerDepth = l.outerDepth at around
  rw [depth, depth, count, around]

theorem Level.Does.depth_le {options : ExecutionOptions} {l l' : Level} {op : Program.Resolved}
    (does : l.Does options op (.next l')) (le : l.depth ≤ options.maxDepth) :
    l'.depth ≤ options.maxDepth := by
  cases does with
  | enterMacro _ _ _ _ _ room =>
    unfold Level.depth at room ⊢
    simp only [List.length_cons]
    omega
  | leaveMacro calling =>
    unfold Level.depth at le ⊢
    rw [calling, List.length_cons] at le
    dsimp only
    omega
  | _ => exact le

namespace Machine

variable {ω : Type} {env : Environment ω} {m m' : Machine ω}

theorem withinBounds_start (options : ExecutionOptions) (loaded : Loaded) (vars : Vars)
    (surroundings : ω) : (start loaded vars surroundings).WithinBounds options where
  level := Nat.zero_le _
  outer := nofun
  inclusions := Nat.zero_le _

theorem WithinBounds.step (h : m.WithinBounds env.options) (first : m.step env = .inl m') :
    m'.WithinBounds env.options := by
  obtain ⟨op, effect, fetched, does, goes⟩ := exists_of_step first
  cases goes with
  | next level => exact ⟨does.depth_le h.level, h.outer, h.inclusions⟩
  | write written =>
    have same := sameButOutput_of_write written
    have level := Level.depth_of_blank same.level
    have count := congrArg List.length same.outer
    rw [List.length_map, List.length_map] at count
    cases does with
    | print =>
      refine ⟨Nat.le_trans (Nat.le_of_eq level) h.level, ?_,
        Nat.le_trans (Nat.le_of_eq count) h.inclusions⟩
      exact same.all_waiting (fun blank le => Nat.le_trans (Nat.le_of_eq (Level.depth_of_blank blank)) le)
        h.outer
  | @enter _ _ _ _ vars loaded _ _ room inner_room =>
    cases does with
    | inclusion =>
      refine ⟨?_, List.forall_mem_cons.mpr ⟨h.level, h.outer⟩, inner_room⟩
      change 0 + (m.level.depth + 1) ≤ env.options.maxDepth
      rw [Nat.zero_add]
      exact room
  | @leave level w rest outer =>
    obtain ⟨first, later⟩ := List.forall_mem_cons.mp (outer ▸ h.outer)
    have inclusions := h.inclusions
    rw [outer, List.length_cons] at inclusions
    exact ⟨first, later, Nat.le_of_succ_le inclusions⟩

theorem Reaches.withinBounds {n : Nat} (h : m.Reaches env n m') (start : m.WithinBounds env.options) :
    m'.WithinBounds env.options :=
  h.preserves WithinBounds.step start

/-- A step below the bound counts one instruction; at the bound the run ends. -/
theorem steps_step {bound : Nat} (bounded : env.options.maxSteps = some bound) :
    (∃ o, m.step env = .inr o ∧ o.steps = m.steps) ∨
      m.steps < bound ∧ (m.step env).elim Machine.steps Outcome.steps = m.steps + 1 := by
  by_cases used : bound ≤ m.steps
  · have spent : exhausted? env.options m.steps = some (.steps bound) := by
      simp [exhausted?, bounded, used]
    exact .inl ⟨m.abort (.limit (.steps bound)), by simp [step, spent], rfl⟩
  · have left : exhausted? env.options m.steps = none := by
      simp [exhausted?, bounded, used]
    refine .inr ⟨by omega, ?_⟩
    simp only [step, left]
    cases m.level.fetch with
    | error defect => rfl
    | ok op => exact (perform_performs env _ _).steps

/-- A run with a bound on its steps ends, and has executed no more instructions. -/
theorem exists_run_of_maxSteps {bound left : Nat} (bounded : env.options.maxSteps = some bound)
    (enough : bound ≤ m.steps + left) (le : m.steps ≤ bound) :
    ∃ o, run env (left + 1) m = some o ∧ o.steps ≤ bound := by
  induction left generalizing m with
  | zero =>
    rcases steps_step bounded (m := m) with ⟨o, last, steps⟩ | ⟨lt, -⟩
    · exact ⟨o, by rw [run, last], by omega⟩
    · omega
  | succ left ih =>
    rcases steps_step bounded (m := m) with ⟨o, last, steps⟩ | ⟨lt, steps⟩
    · exact ⟨o, by rw [run, last], by omega⟩
    · rw [run]
      cases first : m.step env with
      | inl m' =>
        rw [first, Sum.elim_inl] at steps
        exact ih (by omega) (by omega)
      | inr o =>
        rw [first, Sum.elim_inr] at steps
        exact ⟨o, rfl, by omega⟩

end Machine

/-- The effect is not an error that wraps one of another run. -/
def Effect.Flat : Effect → Prop
  | .fail e _ => e.innermost = e
  | _ => True

theorem Level.flat_execute (options : ExecutionOptions) (l : Level) (op : Program.Resolved) :
    (l.execute options op).Flat := by
  cases effect : l.execute options op with
  | fail e l' =>
    cases fails_of_execute effect with
    | defect breaks => cases breaks <;> rfl
    | _ => rfl
  | _ => trivial

/-- A template that cannot be loaded is never reported as an error of a run. -/
def Environment.LoadsPlainly {ω : Type} (env : Environment ω) : Prop :=
  ∀ source, env.source = some source → ∀ name s e, (source name s).1 ≠ .error (.runtime e)

namespace Machine

variable {ω : Type} {env : Environment ω} {m : Machine ω} {o : Outcome ω}

theorem exists_abort_of_enter (plain : env.LoadsPlainly) {name : String} {args : Value}
    (last : m.enter env name args = .inr o) :
    ∃ (m₁ : Machine ω) (e : RuntimeError), o = m₁.abort e ∧ e.innermost = e := by
  unfold enter at last
  split at last
  · exact ⟨_, _, (Sum.inr.inj last).symm, rfl⟩
  case h_2 source given =>
    dsimp only at last
    split at last
    · exact ⟨_, _, (Sum.inr.inj last).symm, rfl⟩
    · split at last
      · exact ⟨_, _, (Sum.inr.inj last).symm, rfl⟩
      · split at last
        · exact ⟨_, _, (Sum.inr.inj last).symm, rfl⟩
        · split at last
          case h_2 => cases last
          case h_1 e surroundings missing =>
            refine ⟨_, _, (Sum.inr.inj last).symm, ?_⟩
            have answer := plain source given name m.surroundings
            rw [missing] at answer
            cases e with
            | runtime e => exact absurd rfl (answer e)
            | _ => rfl

/-- The error that a run ends with wraps none of another run before the levels around
wrap it. -/
theorem exists_abort_of_step (plain : env.LoadsPlainly) (last : m.step env = .inr o) :
    o.error = none ∨ ∃ (m₁ : Machine ω) (e : RuntimeError), o = m₁.abort e ∧ e.innermost = e := by
  unfold step at last
  split at last
  · exact .inr ⟨_, _, (Sum.inr.inj last).symm, rfl⟩
  · dsimp only at last
    split at last
    · exact .inr ⟨_, _, (Sum.inr.inj last).symm, rfl⟩
    case h_2 op _ =>
      have flat := Level.flat_execute env.options m.level op
      generalize m.level.execute env.options op = effect at last flat
      cases effect with
      | next level => cases last
      | write text level =>
        rw [perform] at last
        split at last
        · cases last
        · exact .inr ⟨_, _, (Sum.inr.inj last).symm, rfl⟩
      | enter name args level => exact .inr (exists_abort_of_enter plain last)
      | finish level =>
        rw [perform, finish] at last
        split at last
        · obtain rfl := Sum.inr.inj last
          exact .inl rfl
        · cases last
      | fail e level => exact .inr ⟨_, e, (Sum.inr.inj last).symm, flat⟩

/-- An exceeded bound is reported as it is, however deep inside of inclusions. -/
theorem error_of_innermost_limit (plain : env.LoadsPlainly) {fuel : Nat} {e : RuntimeError} {l : Limit}
    (ended : run env fuel m = some o) (error : o.error = some e) (inner : e.innermost = .limit l) :
    e = .limit l := by
  obtain ⟨n, m', -, -, last⟩ := run_eq_some_iff.mp ended
  rcases exists_abort_of_step plain last with none | ⟨m₁, e₁, rfl, flat⟩
  · cases none.symm.trans error
  · obtain rfl := Option.some.inj error
    rw [RuntimeError.innermost_foldl_around, flat] at inner
    rw [inner]
    exact RuntimeError.foldl_around_limit l m₁.outer

variable {loose : ExecutionOptions}

/-- A run that has not ended has made as many steps as its fuel allows. -/
theorem exists_reaches_of_run_eq_none {fuel : Nat} (going : run env fuel m = none) :
    ∃ m', m.Reaches env fuel m' := by
  induction fuel generalizing m with
  | zero => exact ⟨m, .refl m⟩
  | succ fuel ih =>
    rw [run] at going
    split at going
    case h_1 next first =>
      obtain ⟨m', reaches⟩ := ih going
      exact ⟨m', .step first reaches⟩
    case h_2 => cases going

theorem run_eq_none_under (stricter : env.options.Within loose) {fuel : Nat}
    (going : run env fuel m = none) : run (env.under loose) fuel m = none := by
  obtain ⟨m', reaches⟩ := exists_reaches_of_run_eq_none going
  exact (reaches.under stricter).run_eq_none (Nat.le_refl fuel)

theorem run_under (stricter : env.options.Within loose) {fuel : Nat}
    (ended : run env fuel m = some o) (spared : ¬ o.CutShort env.options loose) :
    run (env.under loose) fuel m = some o := by
  obtain ⟨n, m', lt, reaches, last⟩ := run_eq_some_iff.mp ended
  rcases step_of_step_inr stricter last with same | cut
  · exact run_eq_some_iff.mpr ⟨n, m', lt, reaches.under stricter, same⟩
  · exact absurd cut spared

/-- Looser options lead through a machine that has written what is written in all under
the stricter ones. -/
theorem exists_reaches_under (stricter : env.options.Within loose) {fuel : Nat}
    (ended : run env fuel m = some o) :
    ∃ n m', m.Reaches (env.under loose) n m' ∧ m'.accepted = o.accepted := by
  obtain ⟨n, m', -, reaches, last⟩ := run_eq_some_iff.mp ended
  exact ⟨n, m', reaches.under stricter, (accepted_of_step last).symm⟩

/-- Execution options only cut runs off. If a run ends and may not have been cut short,
it ends the same way under looser options. In any case what it has written by its end is
written under looser options first, and as long as it goes on, the run under looser
options is the same. All of its levels stay within the bounds, an exceeded bound is
never reported as the error of an included template, and a bound on the steps is one on
the instructions that are executed. -/
theorem options_only_cut_off (env : Environment ω) (loose : ExecutionOptions)
    (stricter : env.options.Within loose) (loaded : Loaded) (vars : Vars) (surroundings : ω) :
    let first := start loaded vars surroundings
    (∀ fuel o, run env fuel first = some o → ¬ o.CutShort env.options loose →
        run (env.under loose) fuel first = some o) ∧
      (∀ fuel o, run env fuel first = some o →
        (∃ n m, first.Reaches (env.under loose) n m ∧ m.accepted = o.accepted) ∧
          ∀ more o', run (env.under loose) more first = some o' →
            ∃ rest, o'.output = o.output ++ rest) ∧
      ((∀ n m, first.Reaches env n m → first.Reaches (env.under loose) n m) ∧
        ∀ fuel, run env fuel first = none → run (env.under loose) fuel first = none) ∧
      (∀ n m, first.Reaches env n m → m.WithinBounds env.options) ∧
      (env.LoadsPlainly → ∀ fuel o e l, run env fuel first = some o → o.error = some e →
        e.innermost = .limit l → e = .limit l) ∧
      ∀ bound, env.options.maxSteps = some bound →
        ∃ o, run env (bound + 1) first = some o ∧ o.steps ≤ bound := by
  intro first
  refine ⟨?_, ?_, ⟨?_, ?_⟩, ?_, ?_, ?_⟩
  · exact fun fuel o ended spared => run_under stricter ended spared
  · intro fuel o ended
    obtain ⟨n, m, reaches, accepted⟩ := exists_reaches_under stricter ended
    refine ⟨⟨n, m, reaches, accepted⟩, ?_⟩
    intro more o' ended'
    obtain ⟨rest, later⟩ := reaches.output_run ended'
    exact ⟨rest, by rw [later, accepted]; rfl⟩
  · exact fun n m reaches => reaches.under stricter
  · exact fun fuel going => run_eq_none_under stricter going
  · exact fun n m reaches => reaches.withinBounds (withinBounds_start _ loaded vars surroundings)
  · exact fun plain fuel o e l ended error inner => error_of_innermost_limit plain ended error inner
  · intro bound bounded
    exact exists_run_of_maxSteps bounded (Nat.le_add_left bound 0) (Nat.zero_le bound)

end Machine

namespace Ring

/-- A template that writes a text and includes itself. -/
def ring : Loaded where
  id := 0
  program := {
    name := "ring"
    constants := #[.str "o", .str "ring"]
    names := #[]
    macros := #[]
    instructions := #[.constLoad 0, .print .raw, .constLoad 1, .makeMap 0, .inclusion, .finish] }

def environment : Environment Unit where
  options := { maxIncludeDepth := 1, maxSteps := some 100 }
  source := some fun _ s => (.ok ring, s)
  sink := .unlimited

def loose : ExecutionOptions := { maxIncludeDepth := 2, strictVariables := false }

theorem within_loose : environment.options.Within loose :=
  ⟨Nat.le_refl _, by decide, nofun, nofun⟩

/-- One inclusion more is one text more. -/
theorem options_only_cut_off_ring :
    (∃ fuel o, Machine.run environment fuel (.start ring [] ()) = some o ∧ o.output = "oo" ∧
        ∀ more o', Machine.run (environment.under loose) more (.start ring [] ()) = some o' →
          ∃ rest, o'.output = "oo" ++ rest) ∧
      (Machine.run (environment.under loose) 20 (.start ring [] ())).map Outcome.output = some "ooo" := by
  refine ⟨?_, by decide +kernel⟩
  obtain ⟨-, written, -⟩ := Machine.options_only_cut_off environment loose within_loose ring [] ()
  have texts : (Machine.run environment 20 (.start ring [] ())).map Outcome.output = some "oo" := by
    decide +kernel
  obtain ⟨o, ended, output⟩ := Option.map_eq_some_iff.mp texts
  refine ⟨20, o, ended, output, ?_⟩
  intro more o' ended'
  rw [← output]
  exact (written 20 o ended).2 more o' ended'

end Ring
end TemplateEngine
