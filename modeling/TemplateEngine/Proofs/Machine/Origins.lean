import TemplateEngine.Proofs.Machine.Enclosed
import TemplateEngine.Proofs.Machine.Marks
import TemplateEngine.Proofs.Scope.Leaves

/-!
# Where the macros at a level were made

From the start of a level on, each macro of its program that it has in a marked run was
made by the step that its mark tells, at this level, and the frame that was the innermost
one then has been there ever since.
-/

namespace TemplateEngine

section

variable {R : Nat → Nat → Prop} {P Q : Value → Prop}
  (carries : ∀ {v w : Value}, v.Alike R w → P v → Q w)
include carries

theorem Value.items_alike_all {xs ys : List Value} (h : List.Forall₂ (Value.Alike R) xs ys)
    (all : ∀ value ∈ xs, value.All P) : ∀ value ∈ ys, value.All Q := by
  induction h with
  | nil => exact nofun
  | cons first _ ih =>
    obtain ⟨here, later⟩ := List.forall_mem_cons.mp all
    exact List.forall_mem_cons.mpr ⟨first.all carries here, ih later⟩

theorem Bindings.Alike.all : ∀ {b c : Vars}, Bindings.Alike R b c → Bindings.All P b → Bindings.All Q c
  | [], _, .nil, _ => nofun
  | _ :: _, _, .cons first rest, all => by
    obtain ⟨here, later⟩ := List.forall_mem_cons.mp all
    exact List.forall_mem_cons.mpr ⟨first.all carries here, rest.all later⟩

theorem Frame.Alike.all {f f' : Frame} (h : f.Alike R f') (all : f.All P) : f'.All Q := by
  refine ⟨h.vars.all carries all.vars, ?_⟩
  intro iter' running
  have alike := h.iter
  rw [running] at alike
  generalize found : f.iter = iter at alike
  cases alike with
  | some alike => exact Value.items_alike_all carries alike.items (all.iter _ found)

theorem Scope.Alike.all {s s' : Scope} (h : s.Alike R s') (all : s.All P) : s'.All Q := by
  refine ⟨?_, h.root.all carries all.root⟩
  obtain ⟨inner, -⟩ := h
  obtain ⟨frames, -⟩ := all
  generalize s.inner = fs at inner frames
  generalize s'.inner = fs' at inner
  induction inner with
  | nil => exact nofun
  | cons first _ ih =>
    obtain ⟨here, later⟩ := List.forall_mem_cons.mp frames
    exact List.forall_mem_cons.mpr ⟨first.all carries here, ih later⟩

theorem Level.Alike.all {l l' : Level} (h : l.Alike R l') (all : l.All P) : l'.All Q :=
  ⟨Value.items_alike_all carries h.stack all.stack, h.scope.all carries all.scope⟩

end

namespace Value

/-- What holds of values without the operand that took a new mark. -/
theorem exists_of_modify {args stack xs : List Value} {value : Value} {f : Value → Value}
    (h : xs.modify args.length f = args ++ value :: stack) : ∃ old, xs = args ++ old :: stack := by
  induction args generalizing xs with
  | nil =>
    cases xs with
    | nil => cases h
    | cons old rest =>
      obtain ⟨-, rfl⟩ := List.cons.inj h
      exact ⟨old, rfl⟩
  | cons arg args ih =>
    cases xs with
    | nil => cases h
    | cons first rest =>
      obtain ⟨rfl, later⟩ := List.cons.inj h
      obtain ⟨old, rfl⟩ := ih later
      exact ⟨old, rfl⟩

end Value

namespace Level

variable {P : Value → Prop} {options : ExecutionOptions} {l l' u u' : Level} {op : Program.Resolved}
  {step : Nat}

/-- A level that takes a new mark keeps what holds of its values, but for those that the
operation looks at. -/
theorem All.renew (h : u.All P) (fetched : u.fetch = .ok op) (none : op.inspected = []) :
    (u.renew step).All P := by
  refine ⟨?_, h.scope⟩
  rw [stack_renew fetched, none]
  exact h.stack

/-- What a step of a marked run keeps of the values at a level. -/
theorem All.next_renew (h : u.All P) (admits : AdmitsAt P (u.renew step) op)
    (fetched : u.fetch = .ok op) (does : (u.renew step).Does options op (.next u')) : u'.All P := by
  by_cases none : op.inspected = []
  · exact (h.renew fetched none).next admits does
  have stack : (u.renew step).stack = _ := stack_renew fetched
  cases does with
  | make operands taken makes =>
    cases makes with
    | binary got =>
      rw [taken] at stack
      obtain ⟨left, eq⟩ := @Value.exists_of_modify [_] _ _ _ _ stack.symm
      obtain ⟨right, eq⟩ := @Value.exists_of_modify [] _ _ _ _ eq
      have made := Value.all_of_isScalar admits.scalars (Value.isScalar_binary got)
      exact ⟨List.forall_mem_cons.mpr ⟨made, h.stack_left [right, left] eq⟩, h.scope⟩
    | _ => exact absurd rfl none
  | decided _ which | undecided _ _ which =>
    rcases which with ⟨rfl, -⟩ | ⟨rfl, -⟩ <;> exact absurd rfl none
  | @enterMacro count args ref others callee scope taken size _ _ _ _ pushed =>
    rw [taken] at stack
    subst size
    obtain ⟨old, eq⟩ := Value.exists_of_modify stack.symm
    have given : Bindings.All P (callee.2.params.zip args.reverse) := by
      intro arg member
      exact h.stack_taken eq arg.2 (List.mem_reverse.mp (List.of_mem_zip member).2)
    exact ⟨h.stack_left (args ++ [old]) (by simpa using eq),
      (h.scope.pushWithParent pushed).bindAll given⟩
  | _ => exact absurd rfl none

/-- The level takes the mark of a step, all its values have a property, and what the step
makes has it too. -/
def Renewed (P : Value → Prop) (step : Nat) (u : Level) : Prop :=
  ∃ u₀ : Level, u = u₀.renew step ∧ u₀.All P ∧ ∀ op, u₀.fetch = .ok op → AdmitsAt P (u₀.renew step) op

theorem renewed_law (options : ExecutionOptions) (P : Value → Prop) (step : Nat) :
    LevelPasses options (fun _ => True) (Renewed P step) (Level.All P) (Level.All P) where
  next := by
    rintro _ op u' ⟨u, rfl, all, admits⟩ fetched does -
    exact all.next_renew (admits op fetched) fetched does
  write := by
    rintro _ op text u' ⟨u, rfl, all, -⟩ fetched does
    cases does with
    | print taken =>
      exact (all.renew fetched rfl : (u.renew step).All P).left [_] taken
  enter := by
    rintro _ op name args u' ⟨u, rfl, all, -⟩ fetched does
    cases does with
    | inclusion taken =>
      exact (all.renew fetched rfl : (u.renew step).All P).left [_, _] taken
  resume h := ⟨h.stack, h.scope⟩
  blank := All.of_blank

/-- An operation drops frames, or it adds one, but it does not do both. -/
theorem prefix_or_append (does : l.Does options op (.next l')) :
    l'.scope.shape <+: l.scope.shape ∨ ∃ p, l'.scope.shape = l.scope.shape ++ [p] := by
  have same (eq : l'.scope.shape = l.scope.shape) : l'.scope.shape <+: l.scope.shape :=
    eq ▸ List.prefix_refl _
  cases does with
  | make | drop | jump | pass | skip | decided | undecided => exact .inl (same rfl)
  | store => exact .inl (same (Scope.shape_bind ..))
  | startLoop => exact .inr ⟨_, Scope.shape_startLoop ..⟩
  | round running =>
    refine .inl (same ?_)
    simp only [Scope.shape_bind]
    exact Scope.shape_setIter (by simp [running]) _
  | endLoop _ _ popped => exact .inl ⟨_, (Scope.shape_pop popped).symm⟩
  | enterMacro _ _ _ _ _ _ pushed =>
    have added := (Scope.shape_pushWithParent pushed).2
    exact .inr ⟨_, (Scope.shape_bindAll ..).trans added⟩
  | leaveMacro =>
    refine .inl ?_
    rw [Scope.shape_truncate]
    exact List.take_prefix _ _

/-- As long as there are so many frames, they are the same ones under the same parents. -/
theorem keeps_frames (options : ExecutionOptions) (frames : List (Option Nat × Bool)) :
    LevelLaw options (fun l => frames.length ≤ l.scope.depth) (fun l => frames <+: l.scope.shape)
      (fun l => frames <+: l.scope.shape) where
  next := by
    rintro l op l' kept - does enough
    rcases prefix_or_append does with fewer | ⟨p, more⟩
    · exact List.prefix_of_prefix_length_le kept fewer ((Scope.length_shape _).symm ▸ enough)
    · exact more ▸ kept.trans (List.prefix_append _ _)
  write := by
    rintro l op text l' kept - does
    cases does with
    | print => exact kept
  enter := by
    rintro l op name args l' kept - does
    cases does with
    | inclusion => exact kept
  resume kept := kept
  blank := by
    intro l l' same kept
    rwa [show l'.scope = l.scope from (congrArg Level.scope same :)]

end Level

namespace Machine

variable {ω : Type}

/-- All levels of the machine, innermost first. -/
def levels (m : Machine ω) : List Level := m.level :: m.outer.map Waiting.level

/-- The level with `k` levels around it. -/
def levelAt? (m : Machine ω) (k : Nat) : Option Level := m.levels.reverse[k]?

/-- The level with `k` levels around it has a frame of the number. -/
def HasFrame (k number : Nat) (m : Machine ω) : Prop :=
  ∃ l, m.levelAt? k = some l ∧ number < l.scope.depth

/-- The step from `m₁` makes the macro, at the level with `k` levels around it. The frame
that is the innermost one there is there all the time from `m₁` to `m`, so its number is
not given to another frame. -/
structure MadeAt (env : Environment ω) (k : Nat) (ref : MacroRef) (m₁ m : Machine ω) : Prop where
  makes : ∃ callee, m₁.level.fetch = .ok (.makeMacro callee) ∧
    ref = ⟨m₁.level.loaded.id, callee.1, callee.2.name, m₁.level.scope.current⟩
  level : m₁.outer.length = k
  frame : m₁.Through env (HasFrame k ref.closure) m

/-- The value, if it is a marked macro of the identity, was made in the step that its mark
tells, at the level with `k` levels around it. -/
def Born (env : Environment ω) (first : Machine ω) (id k : Nat) (m : Machine ω) : Value → Prop
  | .macroRef ref => Mark.identity ref.program = id →
    ∃ m₁, first.Reaches env (Mark.step ref.program) m₁ ∧
      MadeAt env k { ref with program := id } m₁ m
  | _ => True

variable {env : Environment ω} {m m' m₁ m₂ t t' first : Machine ω} {id k : Nat}
  {P : Level → Prop}

theorem follows_iff : m.Follows k P P ↔ ∃ l, m.levelAt? k = some l ∧ P l := by
  unfold levelAt? levels
  constructor
  · rintro (⟨rfl, here⟩ | ⟨outer, rfl, here⟩)
    · exact ⟨m.level, by simp, here⟩
    · refine ⟨_, ?_, here⟩
      simp [outer]
  · rintro ⟨l, found, here⟩
    rw [List.reverse_cons] at found
    by_cases inner : k < m.outer.length
    · rw [List.getElem?_append_left (by simpa using inner), List.getElem?_reverse (by simpa using inner),
        List.length_map, List.getElem?_map] at found
      obtain ⟨w, there, rfl⟩ := Option.map_eq_some_iff.mp found
      obtain ⟨place, eq⟩ := List.getElem?_eq_some_iff.mp there
      have outer := (List.take_append_drop (m.outer.length - 1 - k) m.outer).symm
      rw [← List.getElem_cons_drop place, eq] at outer
      refine .waiting outer ?_ here
      rw [List.length_drop]
      omega
    · rw [List.getElem?_append_right (by simpa using inner)] at found
      obtain ⟨place, rfl⟩ := List.getElem?_eq_some_iff.mp found
      simp only [List.length_reverse, List.length_map, List.length_singleton] at place
      exact .running (by omega) (by simpa using here)

theorem Alike.levelAt? {R : Nat → Nat → Prop} (h : m.Alike R m') (k : Nat) :
    Option.Rel (Level.Alike R) (m.levelAt? k) (m'.levelAt? k) := by
  have outer : List.Forall₂ (Level.Alike R) (m.outer.map Waiting.level) (m'.outer.map Waiting.level) := by
    rw [List.forall₂_map_left_iff, List.forall₂_map_right_iff]
    exact h.outer.imp fun _ _ alike => alike.level
  exact rel_getElem? (List.rel_reverse (.cons h.level outer)) k

theorem HasFrame.follows {number : Nat} (h : m.HasFrame k number) :
    m.Follows k (fun l => number < l.scope.depth) (fun l => number < l.scope.depth) :=
  follows_iff.mpr h

/-- The frames that were there when the macro was made are there, under the same parents. -/
theorem MadeAt.frames {ref : MacroRef} (h : MadeAt env k ref m₁ m) (here : m.outer.length = k) :
    m₁.level.scope.shape <+: m.level.scope.shape := by
  obtain ⟨callee, -, rfl⟩ := h.makes
  have size : m₁.level.scope.shape.length = m₁.level.scope.current + 1 := Scope.length_shape _
  have followed : m.Follows k (fun l => m₁.level.scope.shape <+: l.scope.shape)
      (fun l => m₁.level.scope.shape <+: l.scope.shape) := by
    apply h.frame.preserves _ (.running h.level (List.prefix_refl _))
    intro m₂ m₃ kept next there
    refine kept.step (Level.keeps_frames env.options _) next there.follows.depth_le ?_
    exact fun depth => size ▸ there.follows.of_depth depth
  exact followed.of_depth here

theorem Born.next {v : Value} (born : Born env first id k m v) (next : m.step env = .inl m')
    (kept : ∀ ref, v = .macroRef ref → Mark.identity ref.program = id → m'.HasFrame k ref.closure) :
    Born env first id k m' v := by
  cases v with
  | macroRef ref =>
    intro own
    obtain ⟨m₁, reaches, makes, level, frame⟩ := born own
    exact ⟨m₁, reaches, makes, level, frame.snoc next (kept ref rfl own)⟩
  | _ => trivial

/-- A run and its marked run at a time when the level with `k` levels around it is there. -/
structure Tracked (env : Environment ω) (first marked_first : Machine ω) (id k : Nat) (name : String)
    (full : List SourceOp) (m t : Machine ω) : Prop where
  reaches : first.Reaches env m.steps m
  after : afterMarked env marked_first m.steps = some t
  marked : m.Marked t
  enclosed : m.Follows k (Level.Enclosed id name full) (fun l => l.advance.Enclosed id name full)
  born : t.Follows k (Level.All (Born env first id k m)) (Level.All (Born env first id k m))

variable {marked_first : Machine ω} {name : String} {full : List SourceOp}

/-- The macro that a step makes was made in this step. -/
theorem Marked.admitsAt_born (h : m.Marked t) (reaches : first.Reaches env m.steps m)
    (here : m.outer.length = k) {op : Program.Resolved} (fetched : t.level.fetch = .ok op) :
    Level.AdmitsAt (Born env first id k m) (t.level.renew t.steps) op where
  scalars v scalar := by
    cases v with
    | macroRef => cases scalar
    | _ => trivial
  raws _ := trivial
  made := by
    rintro callee rfl own
    have alike := h.alike.level
    have identity : m.level.loaded.id = id := by
      rw [← own]
      exact (Mark.Of.renew alike.linked t.steps).symm
    have step : Mark.step (Mark.renew t.steps t.level.loaded.id) = m.steps :=
      (Mark.step_of _ _).trans h.alike.steps
    have live : m.HasFrame k t.level.scope.current := by
      refine ⟨m.level, ?_, ?_⟩
      · simp [levelAt?, levels, ← here]
      · rw [alike.scope.current]
        exact Nat.lt_succ_self _
    refine ⟨m, step ▸ reaches, ⟨callee, alike.fetch.symm.trans fetched, ?_⟩, here, .refl live⟩
    rw [identity, ← alike.scope.current]
    rfl

/-- After a step the macros that were made so far are closed over frames that are there. -/
theorem Marked.born_next (h : m'.Marked t') (next : m.step env = .inl m')
    (enclosed : m'.Follows k (Level.Enclosed id name full) (fun l => l.advance.Enclosed id name full))
    (born : t'.Follows k (Level.All (Born env first id k m)) (Level.All (Born env first id k m))) :
    t'.Follows k (Level.All (Born env first id k m')) (Level.All (Born env first id k m')) := by
  have closed : m'.Follows k (fun l => l.All (Value.ClosedBelow id l.scope.depth))
      (fun l => l.All (Value.ClosedBelow id l.scope.depth)) :=
    enclosed.imp (fun l here => here.all) fun l here => ⟨here.all.stack, here.all.scope⟩
  obtain ⟨u, found, all⟩ := follows_iff.mp born
  obtain ⟨l, found', bounded⟩ := follows_iff.mp closed
  have alike := h.alike.levelAt? k
  rw [found, found'] at alike
  cases alike with
  | some alike =>
    -- The plain run knows that the frame is there, the marked one where the macro is from.
    have kept : u.All fun v => ∀ ref, v = .macroRef ref → Mark.identity ref.program = id →
        m'.HasFrame k ref.closure := by
      refine alike.all ?_ bounded
      rintro v w linked below ref rfl own
      cases linked with
      | plain plain => exact plain.elim
      | macroRef same => exact ⟨l, found', below (same.symm.trans own)⟩
    exact follows_iff.mpr ⟨u, found, all.of_both (fun v born kept => born.next next kept) kept⟩

theorem Tracked.step (h : Tracked env first marked_first id k name full m t) (coded : WellCoded full)
    (next : m.step env = .inl m') (there : k ≤ m'.outer.length) :
    ∃ t', Tracked env first marked_first id k name full m' t' := by
  obtain ⟨t', next', marked⟩ := h.marked.step next
  have steps := steps_of_step next
  have enclosed := h.enclosed.step (Level.enclosed_law id coded env.options) next there
    fun _ => trivial
  -- The level takes its new mark first. What its operation makes then has this mark, and
  -- it is born of the step that is made.
  have renewed : ({ t with level := t.level.renew t.steps } : Machine ω).Follows k
      (Level.Renewed (Born env first id k m) t.steps) (Level.All (Born env first id k m)) := by
    cases h.born with
    | running here all =>
      refine .running here ⟨t.level, rfl, all, fun op fetched => ?_⟩
      exact h.marked.admitsAt_born h.reaches (h.marked.alike.outer.length_eq.trans here) fetched
    | waiting outer depth all => exact .waiting outer depth all
  have there' : k ≤ t'.outer.length := there.trans (Nat.le_of_eq marked.alike.outer.length_eq)
  have born := renewed.step (Level.renewed_law env.marked.options _ t.steps) next' there'
    fun _ => trivial
  refine ⟨t', ?_, ?_, marked, enclosed, marked.born_next next enclosed born⟩
  · rw [steps]
    exact h.reaches.trans (.single next)
  · rw [steps, afterMarked, h.after]
    simp [next']

/-- From its start on, a level of a compiled program is tracked. -/
theorem Executes.tracked {loaded found : Loaded} {vars given : Vars} {surroundings : ω} {depth n : Nat}
    (reaches : (start loaded vars surroundings).Reaches env n m)
    (begins : m.level = .start found given depth) (program : found.program = .ofOps name full)
    (coded : WellCoded full) (foreign : Bindings.All (Value.ClosedBelow id 0) given)
    (executes : m.Executes env m') :
    ∃ t', Tracked env (start loaded vars surroundings) (startMarked loaded vars surroundings) id
      m.outer.length name full m' t' := by
  obtain ⟨t, after, marked⟩ := exists_afterMarked reaches
  have steps : m.steps = n := by simpa [start] using reaches.steps
  subst steps
  apply executes.preserves
  · rintro m₁ m₂ ⟨t₁, here⟩ next there
    exact here.step coded next there
  refine ⟨t, reaches, after, marked, ?_, ?_⟩
  · refine .running rfl ?_
    rw [begins]
    exact Level.enclosed_start program coded foreign depth
  · have none : m.level.All (Value.ClosedBelow id 0) := begins ▸ Level.all_start foreign depth
    refine .running marked.alike.outer.length_eq.symm (marked.alike.level.all ?_ none)
    rintro v w linked below
    cases linked with
    | plain plain =>
      cases v with
      | macroRef => cases plain
      | _ => trivial
    | list | map => trivial
    | macroRef same => exact fun own => absurd (below (same.symm.trans own)) (Nat.not_lt_zero _)

end Machine
end TemplateEngine
