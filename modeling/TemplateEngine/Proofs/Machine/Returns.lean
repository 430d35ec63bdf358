import TemplateEngine.Proofs.Machine.Framed

/-!
# Calls and their returns

Each macro that returns was called by an instruction of the same level, and the
call was in progress all the time in between, also while templates that the macro
includes were running. The return leaves the scope as deep as the call found it.
-/

namespace TemplateEngine

/-- Where the calls in progress go on and the depths that they leave, outermost first. -/
def Level.records (l : Level) : List (Nat × Nat) :=
  (l.calls.map fun c => (c.returnTo, c.scopeDepth)).reverse

namespace Machine

variable {ω : Type}

/-- The level with `k` levels around it is in more than `n` calls. -/
abbrev Calling (k n : Nat) (m : Machine ω) : Prop :=
  m.Follows k (fun l => n < l.calls.length) (fun l => n < l.calls.length)

/-- The macro called at `m` runs until it returns at `m'`. -/
structure ReturnsAt (env : Environment ω) (m m' : Machine ω) : Prop where
  call : ∃ count, m.level.fetch = .ok (.macroCall count)
  body : ∃ m₁, m.step env = .inl m₁ ∧
    m₁.Through env (Calling m.outer.length m.level.calls.length) m'
  outer : m'.outer.length = m.outer.length
  calls : m'.level.calls.length = m.level.calls.length + 1
  leaves : m'.level.fetch = .ok .macroReturn

/-- The level with `k` levels around it is about to return from its call above `n` others. -/
structure Leaving (k n : Nat) (m : Machine ω) : Prop where
  outer : m.outer.length = k
  calls : m.level.calls.length = n + 1
  leaves : m.level.fetch = .ok .macroReturn

variable {env : Environment ω} {m m' m'' : Machine ω} {k n : Nat} {P : Machine ω → Prop}
  {running waiting : Level → Prop}

theorem Through.first (h : m.Through env P m') : P m := by
  cases h with
  | refl here => exact here
  | step here _ _ => exact here

/-- Steps to a machine with a property have it all along or come to have it last. -/
theorem Through.through_or_entry {Q : Machine ω → Prop} (h : m.Through env Q m') (after : P m') :
    m.Through env P m' ∨ ∃ m₁ m₂, m.Through env Q m₁ ∧ ¬ P m₁ ∧ m₁.step env = .inl m₂ ∧
      m₂.Through env P m' := by
  induction h with
  | refl => exact .inl (.refl after)
  | @step m m₁ m' there first _ ih =>
    rcases ih after with through | ⟨m₂, m₃, reaches, entry⟩
    · by_cases here : P m
      · exact .inl (.step here first through)
      · exact .inr ⟨m, m₁, .refl there, here, first, through⟩
    · exact .inr ⟨m₂, m₃, .step there first reaches, entry⟩

theorem step_does {op : Program.Resolved} (fetched : m.level.fetch = .ok op)
    (first : m.step env = .inl m') : ∃ effect, m.level.Does env.options op effect ∧
      ({ m with steps := m.steps + 1 } : Machine ω).Performs env effect (.inl m') := by
  obtain ⟨op', effect, fetched', does, goes⟩ := exists_of_step first
  cases fetched.symm.trans fetched'
  exact ⟨effect, does, goes⟩

/-- What a step that makes a call does. -/
theorem step_call {count : Nat} (call : m.level.fetch = .ok (.macroCall count))
    (first : m.step env = .inl m') :
    ∃ args ref stack callee scope, m.level.stack = args ++ .macroRef ref :: stack ∧
      args.length = count ∧ ref.program = m.level.loaded.id ∧
      m.level.loaded.program.macroAt ref.index = .ok callee ∧
      m.level.scope.pushWithParent ref.closure = .ok scope ∧
      m' = { m with
        steps := m.steps + 1
        level := { m.level with
          stack := stack
          ip := callee.2.entry
          scope := (callee.2.params.zip args.reverse).foldl (fun s arg => s.bind arg.1 arg.2) scope
          calls := ⟨m.level.ip + 1, m.level.scope.depth, []⟩ :: m.level.calls } } := by
  obtain ⟨effect, does, goes⟩ := step_does call first
  cases does with
  | make _ _ makes => cases makes
  | decided _ which | undecided _ _ which => simp at which
  | enterMacro taken size own found _ _ pushed =>
    cases goes
    exact ⟨_, _, _, _, _, taken, size, own, found, pushed, rfl⟩
  | fail => cases goes

/-- What a step that ends a call does. -/
theorem step_return (leaves : m.level.fetch = .ok .macroReturn) (first : m.step env = .inl m') :
    ∃ c calls, m.level.calls = c :: calls ∧ m' = { m with
      steps := m.steps + 1
      level := { m.level with
        ip := c.returnTo
        scope := m.level.scope.truncate c.scopeDepth
        stack := .raw (String.join c.captured.reverse) :: m.level.stack
        calls := calls } } := by
  obtain ⟨effect, does, goes⟩ := step_does leaves first
  cases does with
  | make _ _ makes => cases makes
  | decided _ which | undecided _ _ which => simp at which
  | leaveMacro calling =>
    cases goes
    exact ⟨_, _, calling, rfl⟩
  | fail => cases goes

theorem Follows.depth_le (h : m.Follows k running waiting) : k ≤ m.outer.length := by
  cases h with
  | running depth _ => exact Nat.le_of_eq depth.symm
  | waiting outer depth _ =>
    simp only [outer, List.length_append, List.length_cons]
    omega

theorem Follows.of_depth (h : m.Follows k running waiting) (depth : m.outer.length = k) :
    running m.level := by
  cases h with
  | running _ runs => exact runs
  | waiting outer size _ =>
    simp only [outer, List.length_append, List.length_cons] at depth
    omega

theorem length_calls_of_blank {l l' : Level} (h : l'.blank = l.blank) :
    l'.calls.length = l.calls.length := by
  have calls := congrArg (fun l => l.calls.length) h
  simpa [Level.blank] using calls

/-- Only a call makes a level be in more calls than before. -/
theorem calling_entry (before : ¬ m.Calling k n) (first : m.step env = .inl m')
    (after : m'.Calling k n) :
    m.outer.length = k ∧ m.level.calls.length = n ∧ ∃ count, m.level.fetch = .ok (.macroCall count) := by
  obtain ⟨op, effect, fetched, does, goes⟩ := exists_of_step first
  cases goes with
  | next level =>
    cases after with
    | waiting outer depth waits => exact absurd (.waiting outer depth waits) before
    | running depth runs =>
      have few : ¬ n < m.level.calls.length := fun more => before (.running depth more)
      refine ⟨depth, ?_⟩
      cases does with
      | make | drop | store | jump | pass | skip | decided | undecided | startLoop | round
      | endLoop => exact absurd runs few
      | @enterMacro count =>
        simp only [List.length_cons] at runs
        exact ⟨by omega, count, fetched⟩
      | leaveMacro calling =>
        refine absurd ?_ few
        rw [calling, List.length_cons]
        exact Nat.lt_succ_of_lt runs
  | write written =>
    have same := sameButOutput_of_write written
    refine absurd ?_ before
    cases after with
    | running depth runs =>
      have size := congrArg List.length same.outer
      simp only [List.length_map] at size
      refine .running (size.symm.trans depth) ?_
      cases does
      rwa [Level.advance, length_calls_of_blank same.level] at runs
    | waiting outer depth waits =>
      obtain ⟨inner', w', around', eq, size, blank⟩ := same.symm.split outer
      refine .waiting eq (size.trans depth) ?_
      rwa [length_calls_of_blank blank]
  | enter _ _ _ _ _ =>
    refine absurd ?_ before
    cases after with
    | running _ runs => exact absurd runs (Nat.not_lt_zero n)
    | @waiting inner w around outer depth waits =>
      cases inner with
      | nil =>
        obtain ⟨rfl, rfl⟩ := List.cons.inj outer
        cases does
        exact .running depth waits
      | cons w₁ inner =>
        obtain ⟨-, outer⟩ := List.cons.inj outer
        exact .waiting outer depth waits
  | @leave level w rest outer =>
    refine absurd ?_ before
    cases after with
    | running depth runs => exact .waiting (outer.trans (List.nil_append _).symm) depth runs
    | @waiting inner w' around outer' depth waits =>
      refine @Follows.waiting _ _ _ _ _ (w :: inner) _ _ ?_ depth waits
      exact outer.trans (congrArg _ outer')

/-- Where no call ends, a level is in as many calls as before. -/
theorem keeps_calling (options : ExecutionOptions) (n : Nat) :
    LevelPasses options (fun _ => True)
      (fun l => n < l.calls.length ∧ (l.fetch = .ok .macroReturn → n + 1 < l.calls.length))
      (fun l => n < l.calls.length) (fun l => n < l.calls.length) where
  next := by
    rintro l op l' ⟨more, last⟩ fetched does -
    cases does with
    | make | drop | store | jump | pass | skip | decided | undecided | startLoop | round
    | endLoop => exact more
    | enterMacro => exact Nat.lt_succ_of_lt more
    | leaveMacro calling =>
      have deep := last fetched
      rw [calling, List.length_cons] at deep
      exact Nat.lt_of_succ_lt_succ deep
  write := by
    rintro l op text l' ⟨more, -⟩ - does
    cases does
    exact more
  enter := by
    rintro l op name args l' ⟨more, -⟩ - does
    cases does
    exact more
  resume more := more
  blank same more := (length_calls_of_blank same).symm ▸ more

/-- As long as the level is there, only a return makes it be in fewer calls than before. -/
theorem calling_exit (before : m.Calling k n) (first : m.step env = .inl m')
    (there : k ≤ m'.outer.length) (after : ¬ m'.Calling k n) : m.Leaving k n := by
  refine Classical.byContradiction fun none => after ?_
  refine Follows.step ?_ (keeps_calling env.options n) first there fun _ => trivial
  cases before with
  | waiting outer depth waits => exact .waiting outer depth waits
  | running depth runs =>
    refine .running depth ⟨runs, fun leaves => ?_⟩
    have other : m.level.calls.length ≠ n + 1 := fun last => none ⟨depth, last, leaves⟩
    omega

/-- Every macro that returns while a template is executed was called then. -/
theorem exists_returnsAt {loaded : Loaded} {vars : Vars} {depth : Nat}
    (begins : m.level = .start loaded vars depth) (h : m.Executes env m')
    (here : m'.outer.length = m.outer.length) (leaves : m'.level.fetch = .ok .macroReturn)
    (called : m'.level.calls ≠ []) : ∃ m₀, m.Executes env m₀ ∧ m₀.ReturnsAt env m' := by
  obtain ⟨c, rest, calls⟩ := List.exists_cons_of_ne_nil called
  have size : m'.level.calls.length = rest.length + 1 := by simp [calls]
  have after : m'.Calling m'.outer.length rest.length := .running rfl (by omega)
  rcases h.through_or_entry after with through | ⟨m₀, m₁, early, before, first, through⟩
  · have calling := through.first.of_depth here.symm
    rw [begins] at calling
    exact absurd calling (Nat.not_lt_zero _)
  · obtain ⟨depth, few, call⟩ := calling_entry before first through.first
    refine ⟨m₀, early, call, ⟨m₁, first, ?_⟩, depth.symm, few ▸ size, leaves⟩
    rw [depth, few]
    exact through

end Machine

namespace Level

variable {options : ExecutionOptions} {l l' : Level} {op : Program.Resolved} {n : Nat}

@[simp] theorem length_records (l : Level) : l.records.length = l.calls.length := by
  simp [records]

theorem records_blank (l : Level) : l.blank.records = l.records := by
  simp [Level.blank, records, Function.comp_def, Call.blank]

/-- What is recorded for a call stays as long as the call is in progress. -/
theorem records_law (options : ExecutionOptions) (n : Nat) (record : Nat × Nat) :
    LevelLaw options (fun l => n < l.calls.length) (fun l => l.records[n]? = some record)
      (fun l => l.records[n]? = some record) where
  next := by
    intro l op l' h _ does inside
    cases does with
    | make | drop | store | jump | pass | skip | decided | undecided | startLoop | round
    | endLoop => exact h
    | enterMacro =>
      simp only [records, List.map_cons, List.reverse_cons]
      exact (List.getElem?_append_left (List.getElem?_eq_some_iff.mp h).1).trans h
    | @leaveMacro c calls calling =>
      simp only [records, calling, List.map_cons, List.reverse_cons] at h
      rwa [List.getElem?_append_left (by simpa using inside)] at h
  write := by
    intro l op text l' h _ does
    cases does
    exact h
  enter := by
    intro l op name args l' h _ does
    cases does
    exact h
  resume h := h
  blank := by
    intro l l' same h
    rwa [← records_blank, same, records_blank]

end Level

namespace Machine

variable {ω : Type} {env : Environment ω} {m m' m'' : Machine ω} {n : Nat}

/-- A law of the level during a call, from its first instruction to its return. -/
theorem ReturnsAt.law {running waiting : Level → Prop} (h : m.ReturnsAt env m')
    (law : LevelLaw env.options (fun l => m.level.calls.length < l.calls.length) running waiting)
    (enters : ∀ m₁, m.step env = .inl m₁ → running m₁.level) : running m'.level := by
  obtain ⟨count, call⟩ := h.call
  obtain ⟨m₁, first, through⟩ := h.body
  have runs := enters m₁ first
  obtain ⟨_, _, _, _, _, -, -, -, -, -, rfl⟩ := step_call call first
  have followed : m'.Follows m.outer.length running waiting := by
    apply through.preserves _ (.running rfl runs)
    intro m₂ m₃ holds step calling
    exact holds.step law step calling.depth_le calling.of_depth
  exact followed.of_depth h.outer

/-- The record of a call is what is left when it returns. -/
theorem ReturnsAt.record (h : m.ReturnsAt env m') :
    m'.level.records[m.level.calls.length]? = some (m.level.ip + 1, m.level.scope.depth) := by
  apply h.law (Level.records_law env.options m.level.calls.length _)
  intro m₁ first
  obtain ⟨count, call⟩ := h.call
  obtain ⟨_, _, _, _, _, -, -, -, -, -, rfl⟩ := step_call call first
  simp only [Level.records, List.map_cons, List.reverse_cons]
  rw [List.getElem?_append_right (by simp)]
  simp

/-- A return goes on behind the call, in a scope as deep as it was at the call. -/
theorem ReturnsAt.restores (h : m.ReturnsAt env m') (framed : m'.level.Framed)
    (step : m'.step env = .inl m'') :
    m''.level.scope.depth = m.level.scope.depth ∧ m''.level.ip = m.level.ip + 1 ∧
      m''.level.calls.length = m.level.calls.length := by
  obtain ⟨c, calls, calling, rfl⟩ := step_return h.leaves step
  have shallow : calls.length = m.level.calls.length := by
    have size := h.calls
    rw [calling, List.length_cons] at size
    exact Nat.succ.inj size
  have record := h.record
  simp only [Level.records, calling, List.map_cons, List.reverse_cons] at record
  rw [List.getElem?_append_right (by simp [shallow])] at record
  simp only [List.length_reverse, List.length_map, shallow, Nat.sub_self,
    List.getElem?_cons_zero, Option.some.injEq, Prod.mk.injEq] at record
  obtain ⟨back, depth⟩ := record
  refine ⟨?_, back, shallow⟩
  obtain ⟨parent, live⟩ := framed.live c.scopeDepth (by simp [calling])
  have deep := (List.getElem?_eq_some_iff.mp live).1
  rw [Scope.length_shape] at deep
  rw [Scope.depth_truncate, depth]
  have pos : 0 < m.level.scope.depth := Nat.succ_pos _
  omega

end Machine
end TemplateEngine
