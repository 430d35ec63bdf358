import TemplateEngine.Proofs.Machine.Pushed
import TemplateEngine.Proofs.Machine.Regions
import TemplateEngine.Proofs.Scope.Looping

/-!
# Rounds of loops

While an expression is evaluated the scope stays as it is, but for the frames of calls
that it makes. While the body of a loop is executed the iterator of the loop stays as
it is. So the head of a loop finds it each time as the last round has left it.
-/

namespace TemplateEngine

namespace Level

variable {options : ExecutionOptions} {l l' : Level} {op : Program.Resolved} {s b : Scope}
  {iter : LoopIter} {n : Nat}

/-- The scope of a level above `n` calls is as it was, or it will be when a call returns. -/
inductive Still (s : Scope) (n : Nat) (l : Level) : Prop
  | here : l.Framed → l.calls.length = n → l.scope = s → Still s n l
  | called {back} : l.Recorded n (back, s.depth) → s.Under l.scope → Still s n l

theorem Still.scope (h : l.Still s n) (own : l.calls.length = n) : l.scope = s := by
  cases h with
  | here _ _ scope => exact scope
  | called recorded _ =>
    have calling := (List.getElem?_eq_some_iff.mp recorded.record).1
    rw [length_records, own] at calling
    exact absurd calling (Nat.lt_irrefl _)

/-- What the return of the innermost call restores. -/
theorem Recorded.innermost {record : Nat × Nat} (h : l.Recorded n record) {c : Call}
    {calls : List Call} (calling : l.calls = c :: calls) (last : ¬ n < calls.length) :
    calls.length = n ∧ c.scopeDepth = record.2 := by
  have record := h.record
  have live := (List.getElem?_eq_some_iff.mp record).1
  rw [length_records, calling, List.length_cons] at live
  obtain rfl : calls.length = n := by omega
  simp only [records, calling, List.map_cons, List.reverse_cons] at record
  rw [List.getElem?_append_right (by simp)] at record
  simp at record
  exact ⟨rfl, congrArg Prod.snd record⟩

/-- An operation that evaluates makes a value, or it goes into a macro. -/
theorem Framed.next_still (framed : l.Framed) (own : l.calls.length = n) (same : l.scope = s)
    (evaluates : op.Evaluates) (does : l.Does options op (.next l')) : l'.Still s n := by
  have framed' := framed.next does
  cases does with
  | make | decided | undecided => exact .here framed' own same
  | drop | store | jump | pass | skip | startLoop | round | endLoop | leaveMacro => exact evaluates.elim
  | enterMacro _ _ _ _ _ _ pushed =>
    refine @Still.called _ _ _ (l.ip + 1) ⟨framed', ?_⟩ (same ▸ (Scope.over_bindAll pushed _).under)
    simp [records, ← own, same]

/-- A call gives the scope back as it was. -/
theorem Recorded.next_still {back : Nat} (recorded : l.Recorded n (back, s.depth))
    (under : s.Under l.scope) (fetched : l.fetch = .ok op) (does : l.Does options op (.next l')) :
    l'.Still s n := by
  by_cases calling : n < l'.calls.length
  · have recorded' := (recorded_law options n _).next recorded fetched does calling
    have deep := Nat.le_of_lt recorded'.depth_lt
    exact .called recorded' (under_next under recorded.depth_lt does deep)
  have framed' := recorded.framed.next does
  have live := (List.getElem?_eq_some_iff.mp recorded.record).1
  rw [length_records] at live
  cases does with
  | make | drop | store | jump | pass | skip | decided | undecided | startLoop | round | endLoop =>
    exact absurd live calling
  | enterMacro => exact absurd (Nat.lt_succ_of_lt live) calling
  | leaveMacro returning =>
    obtain ⟨own, depth⟩ := recorded.innermost returning calling
    have deep : s.depth < l.scope.depth := recorded.depth_lt
    have pos : 0 < s.depth := Nat.succ_pos _
    have shallow : (l.scope.truncate s.depth).depth = s.depth := by
      rw [Scope.depth_truncate]
      omega
    have restored : s.Under (l.scope.truncate s.depth) :=
      under.of_depth_le (Scope.frames_truncate _ _) (Nat.le_of_eq shallow.symm)
    refine .here framed' own ?_
    simpa only [depth] using (restored.eq_of_depth (Nat.le_of_eq shallow)).symm

/-- Expressions leave the scope as it is. -/
theorem still_passes (options : ExecutionOptions) (s : Scope) (n : Nat) :
    LevelPasses options (fun _ => True)
      (fun l => l.Still s n ∧ (l.calls.length = n → ∀ op, l.fetch = .ok op → op.Evaluates))
      (Still s n) (Still s n) where
  next := by
    rintro l op l' ⟨still, evaluates⟩ fetched does -
    cases still with
    | here framed own same => exact framed.next_still own same (evaluates own op fetched) does
    | called recorded under => exact recorded.next_still under fetched does
  write := by
    rintro l op text l' ⟨still, -⟩ fetched does
    cases still with
    | here framed own same =>
      cases does
      exact .here (framed.congr rfl rfl) own same
    | called recorded under =>
      have recorded' := (recorded_law options n _).write recorded fetched does
      cases does
      exact .called recorded' under
  enter := by
    rintro l op name args l' ⟨still, -⟩ fetched does
    cases still with
    | here framed own same =>
      cases does
      exact .here (framed.congr rfl rfl) own same
    | called recorded under =>
      have recorded' := (recorded_law options n _).enter recorded fetched does
      cases does
      exact .called recorded' under
  resume h := by
    cases h with
    | here framed own same => exact .here (framed.congr rfl rfl) own same
    | called recorded under => exact .called ((recorded_law options n _).resume recorded) under
  blank := by
    intro l l' same h
    have scope : l'.scope = l.scope := (congrArg Level.scope same :)
    cases h with
    | here framed own eq =>
      refine .here ((framed_law options fun _ => True).blank same framed) ?_ (scope.trans eq)
      exact (Machine.length_calls_of_blank same).trans own
    | called recorded under =>
      exact .called ((recorded_law options n _).blank same recorded) (scope ▸ under)

/-- As long as there are frames above a scope, other loops leave the one right above it alone. -/
theorem looping_passes (options : ExecutionOptions) (b : Scope) (iter : LoopIter) :
    LevelPasses options (fun l => b.depth < l.scope.depth)
      (fun l => b.Looping iter l.scope ∧
        ∀ var exit, l.fetch = .ok (.forIter var exit) → b.depth + 1 < l.scope.depth)
      (fun l => b.Looping iter l.scope) (fun l => b.Looping iter l.scope) where
  next := by
    rintro l op l' ⟨looping, inner⟩ fetched does there
    exact looping_next looping does there fun var exit same => inner var exit (same ▸ fetched)
  write := by
    rintro l op text l' ⟨looping, -⟩ fetched does
    cases does
    exact looping
  enter := by
    rintro l op name args l' ⟨looping, -⟩ fetched does
    cases does
    exact looping
  resume h := h
  blank := by
    intro l l' same h
    rwa [show l'.scope = l.scope from (congrArg Level.scope same :)]

end Level
end TemplateEngine
