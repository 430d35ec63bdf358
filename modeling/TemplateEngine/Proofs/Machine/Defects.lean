import TemplateEngine.Proofs.Machine.Execute
import TemplateEngine.Proofs.Machine.Failures

/-!
# Errors with which a run ends

A run ends with an error of the operation that it is at, or with one of what the machine
does around it. In the end the waiting levels wrap the error in errors of their own. So a
run that ends with a defect of its program is at an operation that shows the defect, or at
an instruction that cannot be fetched; and a run that ends because a frame is gone is at a
call of a macro of its own program.
-/

namespace TemplateEngine

theorem RuntimeError.around_inj {name : String} {e e' : RuntimeError}
    (h : e.around name = e'.around name) : e = e' := by
  cases e <;> cases e' <;> simp_all [around]

theorem RuntimeError.foldl_around_inj {outer : List Waiting} {e e' : RuntimeError}
    (h : outer.foldl (fun (e : RuntimeError) w => e.around w.name) e
      = outer.foldl (fun (e : RuntimeError) w => e.around w.name) e') : e = e' := by
  induction outer generalizing e e' with
  | nil => exact h
  | cons w rest ih => exact around_inj (ih h)

namespace Machine

variable {ω : Type} {env : Environment ω} {m : Machine ω} {e e' : RuntimeError}

/-- The run ends here with an error of the innermost level. -/
def FailsWith (env : Environment ω) (m : Machine ω) (e : RuntimeError) : Prop :=
  ∃ m' : Machine ω, m'.outer = m.outer ∧ m.step env = .inr (m'.abort e)

theorem error_of_abort {m m' : Machine ω}
    (h : (.inr (m.abort e) : Progress ω) = .inr (m'.abort e')) (outer : m'.outer = m.outer) :
    e = e' := by
  have errors : (m.abort e).error = (m'.abort e').error := congrArg Outcome.error (Sum.inr.inj h)
  simp only [abort, outcome, outer] at errors
  exact RuntimeError.foldl_around_inj (Option.some.inj errors)

/-- The error is one of carrying out what an operation asks for, or of counting steps. -/
inductive OfMachine : RuntimeError → Prop
  | limit (l) : OfMachine (.limit l)
  | output (reason) : OfMachine (.output reason)
  | noLoader (name) : OfMachine (.noLoader name)
  | arguments (ip kind) : OfMachine (.type ip (.argumentsNotMap kind))
  | included (name source) : OfMachine (.included name source)

theorem OfMachine.not_isDefect (h : OfMachine e) : ¬ e.IsDefect := by
  cases h <;> exact nofun

theorem enter_fail {name : String} {args : Value} {m' : Machine ω} (outer : m'.outer = m.outer)
    (h : m.enter env name args = .inr (m'.abort e)) : OfMachine e := by
  unfold enter at h
  split at h
  · obtain rfl := error_of_abort h outer
    exact .noLoader _
  · dsimp only at h
    split at h
    · obtain rfl := error_of_abort h outer
      exact .limit _
    · split at h
      · obtain rfl := error_of_abort h outer
        exact .limit _
      · split at h
        case h_1 fault notMap =>
          obtain rfl := error_of_abort h outer
          unfold includedVars at notMap
          split at notMap <;> cases notMap
          exact .arguments _ _
        · split at h
          · obtain rfl := error_of_abort h outer
            exact .included _ _
          · cases h

theorem perform_fail {effect : Effect} {m' : Machine ω} (outer : m'.outer = m.outer)
    (h : m.perform env effect = .inr (m'.abort e)) :
    OfMachine e ∨ ∃ level, effect = .fail e level := by
  cases effect with
  | next level => cases h
  | write text level =>
    rw [perform] at h
    split at h
    · cases h
    · obtain rfl := error_of_abort h outer
      exact .inl (.output _)
  | enter name args level => exact .inl (enter_fail (m := { m with level := level }) outer h)
  | finish level =>
    rw [perform, finish] at h
    split at h
    · have none : none = (m'.abort e).error := congrArg Outcome.error (Sum.inr.inj h)
      cases none
    · cases h
  | fail e' level =>
    obtain rfl := error_of_abort h outer
    exact .inr ⟨level, rfl⟩

/-- The other errors with which a run ends are of an instruction that cannot be fetched,
or of the operation that is executed. -/
theorem FailsWith.of_level (h : m.FailsWith env e) (level : ¬ OfMachine e) :
    (∃ d, m.level.fetch = .error d ∧ e = .malformed m.level.ip d) ∨
      ∃ op l, m.level.fetch = .ok op ∧ m.level.execute env.options op = .fail e l := by
  obtain ⟨m', outer, h⟩ := h
  unfold step at h
  split at h
  · obtain rfl := error_of_abort h outer
    exact absurd (.limit _) level
  · dsimp only at h
    split at h
    case h_1 d missing =>
      obtain rfl := error_of_abort h outer
      exact .inl ⟨d, missing, rfl⟩
    case h_2 op fetched =>
      rcases perform_fail (m := { m with steps := m.steps + 1 }) outer h with here | ⟨l, shown⟩
      · exact absurd here level
      · exact .inr ⟨op, l, fetched, shown⟩

/-- A run that ends with a defect ends at an instruction that cannot be fetched, or
at one that shows the defect. -/
theorem FailsWith.cases (h : m.FailsWith env e) (defect : e.IsDefect) :
    (∃ d, m.level.fetch = .error d ∧ e = .malformed m.level.ip d) ∨
      ∃ op, m.level.fetch = .ok op ∧ m.level.Breaks op e := by
  rcases h.of_level fun here => here.not_isDefect defect with missing | ⟨op, l, fetched, shown⟩
  · exact .inl missing
  · exact .inr ⟨op, fetched, (Level.fails_of_execute shown).breaks defect⟩

/-- A run that ends because a frame is gone is at a call of a macro of its own. -/
theorem FailsWith.stale {ip : Nat} (h : m.FailsWith env (.type ip .scopeEnded)) :
    ∃ count ref, m.level.fetch = .ok (.macroCall count) ∧
      m.level.stack[count]? = some (.macroRef ref) ∧ ref.program = m.level.loaded.id ∧
      m.level.scope.depth ≤ ref.closure := by
  rcases h.of_level nofun with ⟨d, -, same⟩ | ⟨op, l, fetched, shown⟩
  · cases same
  · cases Level.fails_of_execute shown with
    | defect breaks => cases breaks
    | value other => exact absurd rfl other
    | @frameGone args ref stack taken own gone =>
      exact ⟨args.length, ref, fetched, by simp [taken], own, gone⟩

/-- An error with which a run ends is one of the innermost level, inside of those
that the waiting levels make of it. -/
theorem exists_failsWith {o : Outcome ω} (ended : m.step env = .inr o) (error : o.error = some e) :
    ∃ e', m.FailsWith env e' ∧ m.outer.foldl (fun (e : RuntimeError) w => e.around w.name) e' = e := by
  have aborted {m' : Machine ω} {e' : RuntimeError} (same : o = m'.abort e')
      (outer : m'.outer = m.outer) : ∃ e', m.FailsWith env e' ∧
        m.outer.foldl (fun (e : RuntimeError) w => e.around w.name) e' = e := by
    subst same
    refine ⟨e', ⟨m', outer, ended⟩, ?_⟩
    rw [← outer]
    exact Option.some.inj error
  rcases step_cases env m with ⟨steps, e', eq⟩ | ⟨op, effect, -, -, goes⟩
  · exact aborted (Sum.inr.inj (ended.symm.trans eq)) rfl
  · rw [ended] at goes
    cases goes with
    | refused => exact aborted rfl rfl
    | notFound => exact aborted rfl rfl
    | blocked => exact aborted rfl rfl
    | fail => exact aborted rfl rfl
    | finish => cases error

/-- A defect of the outermost level is the only one that is reported as such. -/
theorem failsWith_of_defect {o : Outcome ω} (ended : m.step env = .inr o) (error : o.error = some e)
    (defect : e.IsDefect) : m.outer = [] ∧ m.FailsWith env e := by
  obtain ⟨e', fails, same⟩ := exists_failsWith ended error
  cases outer : m.outer.reverse with
  | nil =>
    have none : m.outer = [] := List.reverse_eq_nil_iff.mp outer
    rw [none] at same
    exact ⟨none, same ▸ fails⟩
  | cons w rest =>
    have last : m.outer = rest.reverse ++ [w] := by
      rw [← List.reverse_reverse m.outer, outer, List.reverse_cons]
    rw [last, List.foldl_append] at same
    generalize rest.reverse.foldl (fun (e : RuntimeError) w => e.around w.name) e' = inner at same
    -- What a waiting level makes of an error is a limit or is inside of another error.
    subst same
    cases inner <;> cases defect

end Machine
end TemplateEngine
