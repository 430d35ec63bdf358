import TemplateEngine.Machine.Basic

/-!
# Runs as sequences of steps

`Reaches env n m m'` says that `n` steps lead from `m` to `m'`. A run is such a
sequence with a last step that gives the outcome. A bound on the number of steps
only cuts runs off: up to the cut, a bounded run is the unbounded one.
-/

namespace TemplateEngine

variable {ω : Type}

namespace Machine

inductive Reaches (env : Environment ω) : Nat → Machine ω → Machine ω → Prop
  | refl (m) : Reaches env 0 m m
  | step {n m m' m''} : m.step env = .inl m' → Reaches env n m' m'' → Reaches env (n + 1) m m''

variable {env : Environment ω} {n k fuel : Nat} {m m' m'' : Machine ω} {o : Outcome ω}

theorem Reaches.single (h : m.step env = .inl m') : Reaches env 1 m m' := .step h (.refl m')

theorem Reaches.trans (h : Reaches env n m m') (h' : Reaches env k m' m'') :
    Reaches env (n + k) m m'' := by
  induction h with
  | refl => simpa using h'
  | step first _ ih =>
    rw [Nat.add_right_comm]
    exact .step first (ih h')

/-- The part of a run that follows some of its steps is a run. -/
theorem Reaches.run_add (h : Reaches env n m m') : run env (n + fuel) m = run env fuel m' := by
  induction h with
  | refl => simp
  | step first _ ih =>
    rw [Nat.add_right_comm, run, first]
    exact ih

/-- A run with no more fuel than there are steps does not end. -/
theorem Reaches.run_eq_none (h : Reaches env n m m') (le : fuel ≤ n) : run env fuel m = none := by
  induction h generalizing fuel with
  | refl =>
    obtain rfl := Nat.le_zero.mp le
    rfl
  | step first _ ih =>
    cases fuel with
    | zero => rfl
    | succ fuel =>
      rw [run, first]
      exact ih (Nat.le_of_succ_le_succ le)

theorem Reaches.run_of_step (h : Reaches env n m m') (last : m'.step env = .inr o) :
    run env (n + 1) m = some o := by
  rw [h.run_add, run, last]

theorem run_eq_some_iff :
    run env fuel m = some o ↔ ∃ n m', n < fuel ∧ Reaches env n m m' ∧ m'.step env = .inr o := by
  constructor
  · intro ended
    induction fuel generalizing m with
    | zero => cases ended
    | succ fuel ih =>
      rw [run] at ended
      split at ended
      case h_1 next first =>
        obtain ⟨n, m', lt, reaches, last⟩ := ih ended
        exact ⟨n + 1, m', by omega, .step first reaches, last⟩
      case h_2 outcome last =>
        obtain rfl := Option.some.inj ended
        exact ⟨0, m, by omega, .refl m, last⟩
  · rintro ⟨n, m', lt, reaches, last⟩
    exact run_mono lt (reaches.run_of_step last)

/-- What every step keeps holds at the end of a sequence of steps. -/
theorem Reaches.preserves {P : Machine ω → Prop}
    (keeps : ∀ {m m'}, P m → m.step env = .inl m' → P m') (h : Reaches env n m m') (hm : P m) :
    P m' := by
  induction h with
  | refl => exact hm
  | step first _ ih => exact ih (keeps hm first)

end Machine

/-- The same run with no bound on its steps. -/
def Environment.unbounded (env : Environment ω) : Environment ω :=
  { env with options := { env.options with maxSteps := none } }

/-- That a run was cut off by the bound on its steps. -/
def Outcome.CutOff (env : Environment ω) (o : Outcome ω) : Prop :=
  ∃ maximum, env.options.maxSteps = some maximum ∧ o.error = some (.limit (.steps maximum))

theorem RuntimeError.foldl_around_limit (l : Limit) (outer : List Waiting) :
    outer.foldl (fun (e : RuntimeError) w => e.around w.name) (.limit l) = .limit l := by
  induction outer with
  | nil => rfl
  | cons w rest ih => exact ih

namespace Machine

variable {env : Environment ω} {n k fuel : Nat} {m m' m'' : Machine ω} {o : Outcome ω}

@[simp] theorem execute_unbounded (l : Level) (op : Program.Resolved) :
    l.execute env.unbounded.options op = l.execute env.options op := by
  cases op <;> rfl

theorem perform_unbounded (m : Machine ω) (effect : Effect) :
    m.perform env.unbounded effect = m.perform env effect := by
  cases effect <;> rfl

theorem step_unbounded (env : Environment ω) (m : Machine ω) :
    m.step env = m.step env.unbounded ∨ ∃ o, m.step env = .inr o ∧ o.CutOff env := by
  cases h : exhausted? env.options m.steps with
  | none =>
    refine .inl ?_
    have free : exhausted? env.unbounded.options m.steps = none := rfl
    simp only [step, h, free, execute_unbounded, perform_unbounded]
  | some limit =>
    refine .inr ⟨m.abort (.limit limit), by simp [step, h], ?_⟩
    unfold exhausted? at h
    split at h
    · cases h
    case h_2 maximum bounded =>
      split at h
      · obtain rfl := Option.some.inj h
        exact ⟨maximum, bounded, by simp [abort, outcome, RuntimeError.foldl_around_limit]⟩
      · cases h

/-- With a bound on its steps a run is cut off or ends as it would without. -/
theorem run_bounded (ended : run env fuel m = some o) :
    o.CutOff env ∨ run env.unbounded fuel m = some o := by
  induction fuel generalizing m with
  | zero => cases ended
  | succ fuel ih =>
    rcases step_unbounded env m with same | ⟨o', last, cut⟩
    · rw [run] at ended ⊢
      rw [same] at ended
      split at ended
      · exact ih ended
      · exact .inr ended
    · rw [run, last] at ended
      obtain rfl := Option.some.inj ended
      exact .inl cut

/-- A run that ends without a bound on its steps also ends with one. -/
theorem exists_run_bounded (ended : run env.unbounded fuel m = some o) :
    ∃ o', run env fuel m = some o' ∧ (o'.CutOff env ∨ o' = o) := by
  induction fuel generalizing m with
  | zero => cases ended
  | succ fuel ih =>
    rcases step_unbounded env m with same | ⟨o', last, cut⟩
    · rw [run] at ended ⊢
      rw [same]
      split at ended
      · exact ih ended
      · exact ⟨o, ended, .inr rfl⟩
    · exact ⟨o', by rw [run, last], .inl cut⟩

end Machine
end TemplateEngine
