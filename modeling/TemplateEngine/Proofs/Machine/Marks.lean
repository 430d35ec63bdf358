import Mathlib.Data.Nat.Pairing
import TemplateEngine.Proofs.Machine.Levels
import TemplateEngine.Proofs.Machine.Lockstep
import TemplateEngine.Proofs.Value.Renamed

/-!
# Marked runs

Two macros with the same identity, index and frame number are the same value, wherever
they were made. A marked run tells them apart: each macro carries the number of the step
that made it, as a part of the identity of its program. For this the program that runs
takes a new mark before each step. Marks matter to no operation: what a call or a
comparison looks at takes the mark of the step beforehand. So the marked run goes the way
of the run itself, and up to marks it has the same values at all times.
-/

namespace TemplateEngine

/-- The identity of a program with the number of a step. -/
abbrev Mark := Nat

namespace Mark

def of (id step : Nat) : Mark := Nat.pair id step

def identity (mark : Mark) : Nat := mark.unpair.1

def step (mark : Mark) : Nat := mark.unpair.2

/-- The mark of the same identity at another step. -/
def renew (step : Nat) (mark : Mark) : Mark := .of mark.identity step

/-- The mark is one of the identity. -/
def Of (id : Nat) (mark : Mark) : Prop := mark.identity = id

@[simp] theorem identity_of (id step : Nat) : (of id step).identity = id := by
  simp [of, identity]

@[simp] theorem step_of (id step : Nat) : (of id step).step = step := by
  simp [of, Mark.step]

theorem of_identity_step (mark : Mark) : of mark.identity mark.step = mark := Nat.pair_unpair mark

theorem of_inj {id id' step : Nat} : of id step = of id' step ↔ id = id' := by
  constructor
  · intro same
    simpa using congrArg identity same
  · rintro rfl
    rfl

theorem Of.renew {id : Nat} {mark : Mark} (h : Of id mark) (step : Nat) :
    Of id (Mark.renew step mark) :=
  (identity_of _ _).trans h

theorem Of.eq_renew {id : Nat} {mark : Mark} (h : Of id mark) (step : Nat) :
    Mark.renew step mark = of id step :=
  congrArg (of · step) h

end Mark

/-- The operands of an operation, counted from the top, whose identities matter to it. -/
def Op.inspected {κ ν μ : Type} : Op κ ν μ → List Nat
  | .macroCall count => [count]
  | .binOp _ => [0, 1]
  | _ => []

/-- The values with the mark of a step at some places. -/
def Value.renewAt (step : Nat) (places : List Nat) (stack : List Value) : List Value :=
  places.foldl (fun stack i => stack.modify i (Value.rename (Mark.renew step))) stack

/-- The program and the operands that are looked at take the mark of a step. -/
def Level.renew (step : Nat) (l : Level) : Level where
  loaded := { l.loaded with id := Mark.renew step l.loaded.id }
  ip := l.ip
  scope := l.scope
  stack :=
    match l.fetch with
    | .ok op => Value.renewAt step op.inspected l.stack
    | .error _ => l.stack
  calls := l.calls
  written := l.written
  outerDepth := l.outerDepth

/-- The template under a marked identity. -/
def Loaded.marked (loaded : Loaded) : Loaded := { loaded with id := Mark.of loaded.id 0 }

theorem Loaded.program_marked (loaded : Loaded) : loaded.marked.program = loaded.program := rfl

theorem Loaded.of_marked (loaded : Loaded) : Mark.Of loaded.id loaded.marked.id :=
  Mark.identity_of loaded.id 0

/-- The environment that finds templates under marked identities. -/
def Environment.marked {ω : Type} (env : Environment ω) : Environment ω where
  options := env.options
  source := env.source.map fun source name s =>
    match source name s with
    | (.ok loaded, s') => (.ok loaded.marked, s')
    | (.error e, s') => (.error e, s')
  sink := env.sink

theorem Environment.options_marked {ω : Type} (env : Environment ω) :
    env.marked.options = env.options := rfl

theorem Environment.sink_marked {ω : Type} (env : Environment ω) : env.marked.sink = env.sink := rfl

namespace Machine

variable {ω : Type}

/-- The start of a marked run. -/
def startMarked (loaded : Loaded) (vars : Vars) (surroundings : ω) : Machine ω :=
  .start loaded.marked (Value.renameEntries (Mark.of · 0) vars) surroundings

/-- One step of a marked run. -/
def stepMarked (env : Environment ω) (m : Machine ω) : Progress ω :=
  ({ m with level := m.level.renew m.steps } : Machine ω).step env.marked

/-- The machine after some steps of a marked run, if it gets there. -/
def afterMarked (env : Environment ω) (first : Machine ω) : Nat → Option (Machine ω)
  | 0 => some first
  | n + 1 => (afterMarked env first n).bind fun m => (m.stepMarked env).getLeft?

end Machine

namespace Value

variable {R S : Nat → Nat → Prop}

theorem forall₂_modify {r : Value → Value → Prop} {f : Value → Value} (keeps : ∀ v w, r v w → r v (f w))
    {xs ys : List Value} (h : List.Forall₂ r xs ys) (i : Nat) : List.Forall₂ r xs (ys.modify i f) := by
  induction h generalizing i with
  | nil => cases i <;> exact .nil
  | cons first rest ih =>
    cases i with
    | zero => exact .cons (keeps _ _ first) rest
    | succ i => exact .cons first (ih i)

theorem renewAt_alike (step : Nat) (places : List Nat) {xs ys : List Value}
    (h : List.Forall₂ (Alike Mark.Of) xs ys) :
    List.Forall₂ (Alike Mark.Of) xs (renewAt step places ys) := by
  induction places generalizing ys with
  | nil => exact h
  | cons i rest ih =>
    exact ih (forall₂_modify (fun v w alike => alike.rename fun i j h => h.renew step) h i)

end Value

namespace Level

variable {l u : Level} {step : Nat} {op : Program.Resolved}

/-- Taking a new mark makes no difference up to marks. -/
theorem Alike.renew (h : l.Alike Mark.Of u) (step : Nat) : l.Alike Mark.Of (u.renew step) where
  program := h.program
  linked := Mark.Of.renew h.linked step
  ip := h.ip
  scope := h.scope
  stack := by
    unfold Level.renew
    dsimp only
    split
    · exact Value.renewAt_alike step _ h.stack
    · exact h.stack
  calls := h.calls
  written := h.written
  outerDepth := h.outerDepth

theorem stack_renew (fetched : u.fetch = .ok op) :
    (u.renew step).stack = Value.renewAt step op.inspected u.stack := by
  simp [Level.renew, fetched]

/-- At a step of a marked run the operation finds out what it does without marks. -/
theorem Alike.agreesOn_renew (h : l.Alike Mark.Of u) (step : Nat) (fetched : l.fetch = .ok op) :
    l.AgreesOn (u.renew step) op where
  call := by
    rintro count ref ref' rfl found found'
    rw [stack_renew (h.fetch.trans fetched)] at found'
    have alike := rel_getElem? h.stack count
    simp only [Op.inspected, Value.renewAt, List.foldl_cons, List.foldl_nil,
      List.getElem?_modify_eq, Option.map_eq_map, Option.map_eq_some_iff] at found'
    obtain ⟨callee, before, renewed⟩ := found'
    rw [found, before] at alike
    cases alike with
    | some alike =>
      cases alike with
      | plain plain => exact plain.elim
      | macroRef linked =>
        cases renewed
        simp only [Level.renew, Mark.Of.eq_renew h.linked, Mark.Of.eq_renew linked, Mark.of_inj]
  comparison := by
    intro left right stack left' right' stack' which taken taken'
    rw [stack_renew (h.fetch.trans fetched)] at taken'
    have alike := h.stack
    rw [taken] at alike
    generalize u.stack = others at alike taken'
    have renewed : Value.renewAt step [0, 1] others = right' :: left' :: stack' := by
      rcases which with rfl | rfl <;> exact taken'
    cases alike with
    | cons second rest =>
      cases rest with
      | cons first _ =>
        simp only [Value.renewAt, List.foldl_cons, List.foldl_nil, List.modify_zero_cons,
          List.modify_succ_cons, List.cons.injEq] at renewed
        obtain ⟨rfl, rfl, -⟩ := renewed
        have renew {v w : Value} (alike : v.Alike Mark.Of w) :
            v.Alike (fun i j => j = Mark.of i step) (w.rename (Mark.renew step)) :=
          alike.rename fun i j h => h.eq_renew step
        refine Value.looseEq_alike ?_ ?_ (renew first) (renew second)
        · rintro i j j' rfl rfl
          rfl
        · rintro i i' j rfl same
          exact Mark.of_inj.mp same

end Level

namespace Machine

variable {ω : Type} {env : Environment ω} {m m' t : Machine ω}

/-- The marked machine is the machine up to marks. -/
structure Marked (m t : Machine ω) : Prop where
  alike : m.Alike Mark.Of t
  surroundings : t.surroundings = m.surroundings

theorem marked_start (loaded : Loaded) (vars : Vars) (surroundings : ω) :
    (start loaded vars surroundings).Marked (startMarked loaded vars surroundings) := by
  have same : Bindings.Alike (· = ·) vars vars := Value.entries_alike_self vars fun _ _ => rfl
  have marked : Bindings.Alike Mark.Of vars (Value.renameEntries (Mark.of · 0) vars) := by
    refine Value.entries_rename ?_ same
    rintro i j rfl
    exact Mark.identity_of i 0
  exact ⟨⟨Level.alike_start loaded.program_marked loaded.of_marked marked 0, .nil, rfl, rfl⟩, rfl⟩

/-- Templates are found as they are without marks. -/
theorem finds_marked (env : Environment ω) (name : String) {s s' : ω} (same : s' = s) :
    Option.Rel (fun source source' =>
      FindsAlike (fun loaded t loaded' t' => loaded' = loaded.marked ∧ t' = t)
        (source name s) (source' name s')) env.source env.marked.source := by
  subst same
  simp only [Environment.marked]
  cases env.source with
  | none => exact .none
  | some source =>
    refine .some ?_
    dsimp only
    generalize source name s' = found
    obtain ⟨result, t⟩ := found
    cases result with
    | error e => exact .error e t t
    | ok loaded => exact .ok ⟨rfl, rfl⟩

/-- What one step leads to leads to the same up to marks in the marked run. -/
def MarkedNext (progress progress' : Progress ω) : Prop :=
  ∀ m, progress = .inl m → ∃ t, progress' = .inl t ∧ m.Marked t

theorem markedNext_ended {o o' : Outcome ω} (_ : o.Alike o') : MarkedNext (.inr o) (.inr o') := nofun

theorem markedNext_of_marked (h : m.Marked t) : MarkedNext (.inl m) (.inl t) := by
  rintro m ⟨⟩
  exact ⟨t, rfl, h⟩

theorem Marked.enter (h : m.Marked t) (name : String) {args args' : Value}
    (ha : args.Alike Mark.Of args') :
    MarkedNext (m.enter env name args) (t.enter env.marked name args') := by
  have finds := finds_marked env name h.surroundings
  refine h.alike.enter_of env.options_marked name ha finds markedNext_ended ?_
  rintro loaded loaded' vars vars' s s' ⟨rfl, rfl⟩ alike
  refine markedNext_of_marked ⟨⟨?_, ?_, h.alike.steps, h.alike.accepted⟩, rfl⟩
  · exact Level.alike_start loaded.program_marked loaded.of_marked alike _
  · exact .cons ⟨rfl, h.alike.level⟩ h.alike.outer

/-- A step of a run is a step of the marked run. -/
theorem Marked.step (h : m.Marked t) (first : m.step env = .inl m') :
    ∃ t', t.stepMarked env = .inl t' ∧ m'.Marked t' := by
  have renewed := h.alike.withLevel (h.alike.level.renew t.steps)
  suffices MarkedNext (m.step env) (t.stepMarked env) from this m' first
  refine renewed.step_of env.options_marked ?_ markedNext_ended ?_
  · exact fun op _ fetched => h.alike.level.agreesOn_renew t.steps fetched
  · intro effect effect' alike
    have counted : ({ m with steps := m.steps + 1 } : Machine ω).Alike Mark.Of
        { t with level := t.level.renew t.steps, steps := m.steps + 1 } := { renewed with steps := rfl }
    refine counted.perform_of env.sink_marked alike markedNext_ended ?_ ?_
    · rintro n n' alike same same'
      exact markedNext_of_marked ⟨alike, same'.trans (h.surroundings.trans same.symm)⟩
    · intro name args args' l l' ha hl
      exact Marked.enter ⟨counted.withLevel hl, h.surroundings⟩ name ha

/-- The marked run gets wherever the run gets. -/
theorem exists_afterMarked {n : Nat} {loaded : Loaded} {vars : Vars} {surroundings : ω}
    (reaches : (start loaded vars surroundings).Reaches env n m) :
    ∃ t, afterMarked env (startMarked loaded vars surroundings) n = some t ∧ m.Marked t := by
  have steps : m.steps = n := by simpa [start] using reaches.steps
  subst steps
  apply reaches.preserves (P := fun m => ∃ t, afterMarked env _ m.steps = some t ∧ m.Marked t) _
    ⟨_, rfl, marked_start loaded vars surroundings⟩
  rintro m₁ m₂ ⟨t, after, marked⟩ first
  obtain ⟨t', next, marked'⟩ := marked.step first
  exact ⟨t', by simp [steps_of_step first, afterMarked, after, next], marked'⟩

end Machine
end TemplateEngine
