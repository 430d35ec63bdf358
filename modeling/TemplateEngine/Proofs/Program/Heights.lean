import TemplateEngine.Proofs.Machine.Defects
import TemplateEngine.Proofs.Program.Routines

/-!
# Heights of the stack in compiled code

At each instruction of compiled code it is known how high the stack is, how many
loops are around and whether a macro runs. A point is safe if all ways that lead on
from it find what they need, for any number of steps. Code of an expression leads
safely to its end with one value more, code of a node from an empty stack to an empty
one. As loops lead back to where they start, this is shown for each number of steps.
-/

namespace TemplateEngine

/-- How many values an operation that does not jump leaves on the stack. -/
def Op.results {κ ν μ : Type} : Op κ ν μ → Nat
  | .constLoad _ | .loadVar _ | .fieldName _ | .index | .binOp _ | .not | .neg | .makeList _
  | .makeMap _ | .filter _ | .makeMacro _ | .macroCall _ => 1
  | _ => 0

/-- What is known beforehand about a level at an instruction. Heights and loops are
counted from where the template or the macro starts. -/
structure Point where
  place : Nat
  height : Nat
  loops : Nat
  inMacro : Bool

namespace Point

variable {κ ν μ : Type}

/-- The operation finds what it needs. -/
def Allows (pt : Point) : Op κ ν μ → Prop
  | .finish => pt.height = 0 ∧ pt.loops = 0 ∧ pt.inMacro = false
  | .macroReturn => pt.height = 0 ∧ pt.inMacro = true
  | .forIter _ _ => 0 < pt.loops ∧ pt.height = 0
  | op => op.operands ≤ pt.height

/-- Where the operation leads; a call leads to where it returns to. -/
def next (pt : Point) : Op κ ν μ → List Point
  | .finish | .macroReturn => []
  | .jump t => [{ pt with place := t }]
  | .popJumpIfFalse t =>
    [{ pt with place := pt.place + 1, height := pt.height - 1 },
      { pt with place := t, height := pt.height - 1 }]
  | .jumpIfFalseOrPop t | .jumpIfTrueOrPop t =>
    [{ pt with place := pt.place + 1, height := pt.height - 1 }, { pt with place := t }]
  | .forStart =>
    [{ pt with place := pt.place + 1, height := pt.height - 1, loops := pt.loops + 1 }]
  | .forIter _ exit =>
    [{ pt with place := pt.place + 1 }, { pt with place := exit, loops := pt.loops - 1 }]
  | op => [{ pt with place := pt.place + 1, height := pt.height - op.operands + op.results }]

theorem allows_resolved (pt : Point) (n : Nat) (op : SourceOp) :
    pt.Allows (op.resolved n) ↔ pt.Allows op := by
  cases op <;> rfl

theorem next_resolved (pt : Point) (n : Nat) (op : SourceOp) :
    pt.next (op.resolved n) = pt.next op := by
  cases op <;> rfl

end Point

/-- The operation needs its operands only and leads to the next one. -/
def Op.IsStraight {κ ν μ : Type} (op : Op κ ν μ) : Prop :=
  ∀ pt : Point, (op.operands ≤ pt.height → pt.Allows op) ∧
    pt.next op = [{ pt with
      place := pt.place + 1, height := pt.height - op.operands + op.results }]

/-- Every way of `n` steps from a point finds what it needs. -/
def Safe (full : List SourceOp) : Nat → Point → Prop
  | 0, _ => True
  | n + 1, pt => ∃ op, full[pt.place]? = some op ∧ pt.Allows op ∧ ∀ pt' ∈ pt.next op, Safe full n pt'

namespace Safe

variable {full rest first second : List SourceOp} {op : SourceOp} {n place next h h' loops : Nat}
  {inMacro : Bool} {pt : Point}

theorem cast (safe : Safe full n ⟨place, h, loops, inMacro⟩) (e : next = place) :
    Safe full n ⟨next, h, loops, inMacro⟩ := by
  rwa [e]

theorem pred (safe : Safe full (n + 1) pt) : Safe full n pt := by
  induction n generalizing pt with
  | zero => trivial
  | succ n ih =>
    obtain ⟨op, at_place, allows, later⟩ := safe
    exact ⟨op, at_place, allows, fun pt' known => ih (later pt' known)⟩

theorem mono {k : Nat} (safe : Safe full n pt) (le : k ≤ n) : Safe full k pt := by
  induction le with
  | refl => exact safe
  | step _ ih => exact ih safe.pred

/-- A point is safe if the operation there is allowed and leads to safe points. -/
theorem of_next (code : CodeAt full pt.place (op :: rest)) (allows : pt.Allows op)
    (later : ∀ pt' ∈ pt.next op, Safe full n pt') : Safe full (n + 1) pt :=
  ⟨op, code.getElem?, allows, later⟩

/-- An operation that does not jump, in front of a safe point. -/
theorem before (safe : Safe full n ⟨next, h', loops, inMacro⟩)
    (code : CodeAt full place (op :: rest)) (straight : op.IsStraight) (e : next = place + 1)
    (e' : h' + op.operands = h + op.results) (enough : op.operands ≤ h) :
    Safe full n ⟨place, h, loops, inMacro⟩ := by
  obtain ⟨allows, leads⟩ := straight ⟨place, h, loops, inMacro⟩
  refine pred (of_next code (allows enough) ?_)
  rw [leads, List.forall_mem_singleton]
  have same : h - op.operands + op.results = h' := by omega
  simp only [same, ← e]
  exact safe

theorem before_jump {t : Nat} (safe : Safe full n ⟨t, h, loops, inMacro⟩)
    (code : CodeAt full place (.jump t :: rest)) : Safe full n ⟨place, h, loops, inMacro⟩ :=
  pred (of_next code (Nat.zero_le _) (List.forall_mem_singleton.mpr safe))

/-- A jump that takes the value that it depends on. -/
theorem before_test {t : Nat} (code : CodeAt full place (.popJumpIfFalse t :: rest))
    (safe : Safe full n ⟨place + 1, h, loops, inMacro⟩)
    (jumped : Safe full n ⟨t, h, loops, inMacro⟩) :
    Safe full n ⟨place, h + 1, loops, inMacro⟩ :=
  pred (of_next code (Nat.le_add_left 1 h)
    (List.forall_mem_cons.mpr ⟨safe, List.forall_mem_singleton.mpr jumped⟩))

/-- A jump that takes the value that it depends on if it does not jump. -/
theorem before_shortcut {t : Nat} (code : CodeAt full place (op :: rest))
    (which : op = .jumpIfFalseOrPop t ∨ op = .jumpIfTrueOrPop t)
    (safe : Safe full n ⟨place + 1, h, loops, inMacro⟩)
    (jumped : Safe full n ⟨t, h + 1, loops, inMacro⟩) :
    Safe full n ⟨place, h + 1, loops, inMacro⟩ := by
  have both := List.forall_mem_cons.mpr ⟨safe, List.forall_mem_singleton.mpr jumped⟩
  rcases which with rfl | rfl <;> exact pred (of_next code (Nat.le_add_left 1 h) both)

/-- A jump over the second of two pieces of code to the end of both. -/
theorem shortcut (code : CodeAt full place (first ++ op :: second))
    (which : op = .jumpIfFalseOrPop (place + first.length + 1 + second.length) ∨
      op = .jumpIfTrueOrPop (place + first.length + 1 + second.length))
    (later : Safe full n ⟨place + (first ++ op :: second).length, h + 1, loops, inMacro⟩)
    (safe_first : Safe full n ⟨place + first.length, h + 1, loops, inMacro⟩ →
      Safe full n ⟨place, h, loops, inMacro⟩)
    (safe_second : Safe full n ⟨place + first.length + 1 + second.length, h + 1, loops, inMacro⟩ →
      Safe full n ⟨place + first.length + 1, h, loops, inMacro⟩) :
    Safe full n ⟨place, h, loops, inMacro⟩ := by
  have exit : Safe full n ⟨place + first.length + 1 + second.length, h + 1, loops, inMacro⟩ :=
    later.cast <| by
      rw [List.length_append, List.length_cons]
      omega
  exact safe_first (before_shortcut (code.right rfl) which (safe_second exit) exit)

theorem before_forStart (code : CodeAt full place (.forStart :: rest))
    (safe : Safe full n ⟨place + 1, h, loops + 1, inMacro⟩) :
    Safe full n ⟨place, h + 1, loops, inMacro⟩ :=
  pred (of_next code (Nat.le_add_left 1 h) (List.forall_mem_singleton.mpr safe))

/-- The head of a loop is safe if its exit is and the way round leads back to it. -/
theorem of_loop (round : ∀ k < n, Safe full k pt → Safe full (k + 1) pt) : Safe full n pt := by
  induction n with
  | zero => trivial
  | succ n ih =>
    have here : Safe full n pt := ih fun k lt => round k (Nat.lt_succ_of_lt lt)
    exact round n (Nat.lt_succ_self n) here

end Safe

section

variable {options : CompileOptions} {full : List SourceOp} {n loops : Nat} {inMacro : Bool}

mutual

/-- The code of an expression leads safely to its end, with a value more. -/
theorem ExprCode.safe : ∀ {start e ops}, ExprCode start e ops → CodeAt full start ops → ∀ {h},
    Safe full n ⟨start + ops.length, h + 1, loops, inMacro⟩ →
    Safe full n ⟨start, h, loops, inMacro⟩
  | _, _, _, .literal, code, _, later => later.before code (fun _ => ⟨id, rfl⟩) rfl rfl (Nat.zero_le _)
  | _, _, _, .list each, code, _, later =>
    each.safe code.left (later.before (code.right rfl) (fun _ => ⟨id, rfl⟩) (by simp [Nat.add_assoc])
      (by simp only [Op.operands, Op.results]; omega) (Nat.le_add_left ..))
  | _, _, _, .var, code, _, later => later.before code (fun _ => ⟨id, rfl⟩) rfl rfl (Nat.zero_le _)
  | _, _, _, .attr inner, code, _, later =>
    inner.safe code.left (later.before (code.right rfl) (fun _ => ⟨id, rfl⟩) (by simp [Nat.add_assoc])
      rfl (Nat.le_add_left ..))
  | _, _, _, .index first second, code, _, later =>
    first.safe code.left (second.safe (code.right rfl).left
      (later.before ((code.right rfl).right rfl) (fun _ => ⟨id, rfl⟩) (by simp [Nat.add_assoc]) rfl
        (Nat.le_add_left ..)))
  | _, _, _, .call callee each, code, _, later =>
    callee.safe code.left (each.safe (code.right rfl).left
      (later.before ((code.right rfl).right rfl) (fun _ => ⟨id, rfl⟩) (by simp [Nat.add_assoc])
        (by simp only [Op.operands, Op.results]; omega) (by simp only [Op.operands]; omega)))
  | _, _, _, .filter _ inner, code, _, later =>
    inner.safe code.left (later.before (code.right rfl) (fun _ => ⟨id, rfl⟩) (by simp [Nat.add_assoc])
      rfl (Nat.le_add_left ..))
  | _, _, _, .neg inner, code, _, later =>
    inner.safe code.left (later.before (code.right rfl) (fun _ => ⟨id, rfl⟩) (by simp [Nat.add_assoc])
      rfl (Nat.le_add_left ..))
  | _, _, _, .not inner, code, _, later =>
    inner.safe code.left (later.before (code.right rfl) (fun _ => ⟨id, rfl⟩) (by simp [Nat.add_assoc])
      rfl (Nat.le_add_left ..))
  | _, _, _, .binary first second, code, _, later =>
    first.safe code.left (second.safe (code.right rfl).left
      (later.before ((code.right rfl).right rfl) (fun _ => ⟨id, rfl⟩) (by simp [Nat.add_assoc]) rfl
        (Nat.le_add_left ..)))
  | _, _, _, .conj first second, code, _, later =>
    .shortcut code (.inl rfl) later (first.safe code.left) (second.safe ((code.right rfl).tail rfl))
  | _, _, _, .disj first second, code, _, later =>
    .shortcut code (.inr rfl) later (first.safe code.left) (second.safe ((code.right rfl).tail rfl))

theorem ExprListCode.safe : ∀ {start items ops}, ExprListCode start items ops →
    CodeAt full start ops → ∀ {h},
    Safe full n ⟨start + ops.length, h + items.length, loops, inMacro⟩ →
    Safe full n ⟨start, h, loops, inMacro⟩
  | _, _, _, .nil, _, _, later => later
  | _, _, _, .cons first others, code, _, later => by
    rw [List.length_append, List.length_cons, ← Nat.add_assoc, Nat.add_comm _ 1, ← Nat.add_assoc]
      at later
    exact first.safe code.left (others.safe (code.right rfl) later)

end

theorem ArgsCode.safe {start args ops} (code_of : ArgsCode start args ops)
    (code : CodeAt full start ops) {h : Nat}
    (later : Safe full n ⟨start + ops.length, h + 2 * args.length, loops, inMacro⟩) :
    Safe full n ⟨start, h, loops, inMacro⟩ := by
  induction code_of generalizing h with
  | nil => exact later
  | @cons start key e rest first others first_code _ ih =>
    have code' := code.tail rfl
    have place : start + (Op.constLoad (Literal.str key) :: (first ++ others)).length
        = start + 1 + first.length + others.length := by
      simp only [List.length_cons, List.length_append]
      omega
    have height : h + 2 * ((key, e) :: rest).length = h + 1 + 1 + 2 * rest.length := by
      rw [List.length_cons]
      omega
    rw [place, height] at later
    exact (first_code.safe code'.left (ih (code'.right rfl) later)).before code (fun _ => ⟨id, rfl⟩) rfl
      rfl (Nat.zero_le _)

/-- Both ways through a branch lead to its end. -/
theorem safe_branch {start h : Nat} {cond inner others : List SourceOp}
    (code : CodeAt full start (branchCode start cond inner others))
    (later : Safe full n
      ⟨start + (branchCode start cond inner others).length, h, loops, inMacro⟩)
    (safe_cond : Safe full n ⟨start + cond.length, h + 1, loops, inMacro⟩ →
      Safe full n ⟨start, h, loops, inMacro⟩)
    (safe_inner : Safe full n ⟨start + cond.length + 1 + inner.length, h, loops, inMacro⟩ →
      Safe full n ⟨start + cond.length + 1, h, loops, inMacro⟩)
    (safe_others : Safe full n
        ⟨start + cond.length + 1 + inner.length + 1 + others.length, h, loops, inMacro⟩ →
      Safe full n ⟨start + cond.length + 1 + inner.length + 1, h, loops, inMacro⟩) :
    Safe full n ⟨start, h, loops, inMacro⟩ := by
  have exit : Safe full n
      ⟨start + cond.length + 1 + inner.length + 1 + others.length, h, loops, inMacro⟩ :=
    later.cast <| by
      rw [branchCode, List.length_append, List.length_cons, List.length_append, List.length_cons]
      omega
  have body_at := (code.right rfl).tail rfl
  have body := safe_inner (exit.before_jump (body_at.right rfl))
  exact safe_cond (.before_test (code.right rfl) body (safe_others exit))

mutual

/-- The code of a node leads safely to its end, with nothing on the stack. -/
theorem NodeCode.safe : ∀ {start node ops}, NodeCode options start node ops →
    CodeAt full start ops → ∀ {n loops},
    Safe full n ⟨start + ops.length, 0, loops, inMacro⟩ →
    Safe full n ⟨start, 0, loops, inMacro⟩
  | _, _, _, .noText, _, _, _, later => later
  | _, _, _, .text _, code, _, _, later => by
    have print := later.before (h := 0 + 1) (code.tail rfl) (fun _ => ⟨id, rfl⟩) rfl rfl
      (Nat.le_add_left ..)
    exact print.before code (fun _ => ⟨id, rfl⟩) rfl rfl (Nat.zero_le _)
  | _, _, _, .print value, code, _, _, later =>
    value.safe code.left (later.before (code.right rfl) (fun _ => ⟨id, rfl⟩) (by simp [Nat.add_assoc])
      rfl (Nat.le_add_left ..))
  | _, _, _, .branch test body rest, code, _, _, later =>
    safe_branch code later (test.safe code.left) (body.safe ((code.right rfl).tail rfl).left)
      (rest.safe ((((code.right rfl).tail rfl).right rfl).tail rfl))
  | _, _, _, @NodeCode.foreach _ start _ _ _ ops inner items body, code, n, loops, later => by
    have exit : Safe full n ⟨start + ops.length + 2 + inner.length + 1, 0, loops, inMacro⟩ :=
      later.cast <| by
        simp only [List.length_append, List.length_cons, List.length_nil]
        omega
    have head_at := (code.right rfl).tail rfl
    have body_at := head_at.tail rfl
    have head : Safe full n ⟨start + ops.length + 1, 0, loops + 1, inMacro⟩ := by
      apply Safe.of_loop
      intro k lt again
      have round := body.safe body_at.left (again.before_jump (body_at.right rfl))
      refine .of_next head_at ⟨Nat.succ_pos _, rfl⟩ (List.forall_mem_cons.mpr ⟨round, ?_⟩)
      exact List.forall_mem_singleton.mpr (exit.mono (Nat.le_of_lt lt))
    exact items.safe code.left (.before_forStart (code.right rfl) head)
  | _, _, _, @NodeCode.loop _ start _ _ cond inner test body, code, n, loops, later => by
    have exit : Safe full n ⟨start + cond.length + 1 + inner.length + 1, 0, loops, inMacro⟩ :=
      later.cast <| by
        simp only [List.length_append, List.length_cons, List.length_nil]
        omega
    have test_at := code.right rfl
    have body_at := test_at.tail rfl
    have head : Safe full n ⟨start + cond.length, 1, loops, inMacro⟩ := by
      apply Safe.of_loop
      intro k lt again
      have first := test.safe code.left again
      have round := body.safe body_at.left (first.before_jump (body_at.right rfl))
      refine .of_next test_at (Nat.le_refl 1) (List.forall_mem_cons.mpr ⟨round, ?_⟩)
      exact List.forall_mem_singleton.mpr (exit.mono (Nat.le_of_lt lt))
    exact test.safe code.left head
  | _, _, _, .assign value, code, _, _, later =>
    value.safe code.left (later.before (code.right rfl) (fun _ => ⟨id, rfl⟩) (by simp [Nat.add_assoc])
      rfl (Nat.le_add_left ..))
  | _, _, _, @NodeCode.define _ start name params _ inner body, code, n, loops, later => by
    have exit : Safe full n ⟨start + 3 + inner.length + 1, 0, loops, inMacro⟩ := later.cast <| by
      simp only [List.length_append, List.length_cons, List.length_nil]
      omega
    have jump := exit.before_jump ((code.tail rfl).tail rfl)
    have store := jump.before (h := 1) (code.tail rfl) (fun _ => ⟨id, rfl⟩) rfl rfl
      (Nat.le_add_left ..)
    exact store.before code (fun _ => ⟨id, rfl⟩) rfl rfl (Nat.zero_le _)
  | _, _, _, @NodeCode.inclusion _ start _ args name entries template args_code, code, n, loops,
    later => by
    have args_at := code.right rfl
    have make_at := args_at.right rfl
    have enter : Safe full n ⟨start + name.length + entries.length + 1, 2, loops, inMacro⟩ :=
      later.before (make_at.tail rfl) (fun _ => ⟨id, rfl⟩)
        (by simp only [List.length_append, List.length_cons, List.length_nil]; omega) rfl
        (Nat.le_add_left ..)
    have make := enter.before (h := 1 + 2 * args.length) make_at (fun _ => ⟨id, rfl⟩) rfl
      (by simp only [Op.operands, Op.results]; omega) (Nat.le_add_left ..)
    exact template.safe code.left (args_code.safe args_at.left make)

theorem RestCode.safe : ∀ {start rest ops}, RestCode options start rest ops →
    CodeAt full start ops → ∀ {n loops},
    Safe full n ⟨start + ops.length, 0, loops, inMacro⟩ →
    Safe full n ⟨start, 0, loops, inMacro⟩
  | _, _, _, .done, _, _, _, later => later
  | _, _, _, .otherwise body, code, _, _, later => body.safe code later
  | _, _, _, .elsif test body rest, code, _, _, later =>
    safe_branch code later (test.safe code.left) (body.safe ((code.right rfl).tail rfl).left)
      (rest.safe ((((code.right rfl).tail rfl).right rfl).tail rfl))

theorem BodyCode.safe : ∀ {start body ops}, BodyCode options start body ops →
    CodeAt full start ops → ∀ {n loops},
    Safe full n ⟨start + ops.length, 0, loops, inMacro⟩ →
    Safe full n ⟨start, 0, loops, inMacro⟩
  | _, _, _, .nil, _, _, _, later => later
  | _, _, _, .cons node rest, code, _, _, later => by
    rw [List.length_append, ← Nat.add_assoc] at later
    exact node.safe code.left (rest.safe (code.right rfl) later)

end

end

/-- The code starts safely, and so do its macros. -/
structure WellCoded (full : List SourceOp) : Prop where
  start : ∀ n, Safe full n ⟨0, 0, 0, false⟩
  entry : ∀ op ∈ full, ∀ callee, op.callee? = some callee →
    ∀ n, Safe full n ⟨callee.entry, 0, 0, true⟩

/-- All ways through the code of a template find what they need. -/
theorem BodyCode.wellCoded {options : CompileOptions} {t : Template} {ops : List SourceOp}
    (code : BodyCode options 0 t.body ops) : WellCoded (ops ++ [.finish]) := by
  have whole := CodeAt.whole (ops ++ [Op.finish])
  constructor
  · intro n
    apply code.safe whole.left
    exact Safe.pred (.of_next (whole.right rfl) ⟨rfl, rfl, rfl⟩ nofun)
  · intro op member callee defines n
    have known : callee ∈ (Program.ofOps t.name (ops ++ [.finish])).macros := by
      rw [Program.macros_ofOps, List.mem_toArray]
      exact List.mem_filterMap.mpr ⟨op, member, defines⟩
    obtain ⟨k, at_k⟩ := Array.mem_iff_getElem?.mp known
    have located := Template.located_macros code k
    rw [at_k] at located
    generalize t.routines[k]? = routine at located
    cases located with
    | some here =>
      obtain ⟨inner, body, body_at⟩ := here.body
      apply body.safe body_at.left
      exact Safe.pred (.of_next (body_at.right rfl) ⟨rfl, rfl⟩ nofun)

theorem Template.wellCoded_of_compile {options : CompileOptions} {source : String} {t : Template}
    {p : Program} (compiled : t.compile options source = .ok p) :
    ∃ full, p = .ofOps t.name full ∧ WellCoded full := by
  obtain ⟨ops, code, program⟩ := Template.code_of_compile compiled
  exact ⟨_, program, code.wellCoded⟩

end TemplateEngine
