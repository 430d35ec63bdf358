import TemplateEngine.Proofs.Program.Closed
import TemplateEngine.Proofs.Program.Heights

/-!
# Pieces of code on their own

Once a piece of code has begun it is left at its end only, with the values that it
makes. To see this the piece is put behind a fence: in front of it stand operations
that no way may come to, and behind it an end that takes these values. All ways
through the fenced code find what they need, so none of them leads to the fence.
-/

namespace TemplateEngine

/-- The operation is one of those that expressions consist of. -/
@[grind =]
def Op.Evaluates {κ ν μ : Type} : Op κ ν μ → Prop
  | .constLoad _ | .loadVar _ | .fieldName _ | .index | .binOp _ | .not | .neg | .makeList _
  | .filter _ | .jumpIfFalseOrPop _ | .jumpIfTrueOrPop _ | .macroCall _ => True
  | _ => False

/-- The piece alone, at its place, with an end behind it that takes `left` values. -/
def fenced (start : Nat) (ops : List SourceOp) (left : Nat) : List SourceOp :=
  List.replicate start .macroReturn ++ ops ++ (List.replicate left .pop ++ [.finish])

/-- All ways from the point stay in the piece up to its end, to which they come with
`left` values and in no loop of the piece. -/
structure Fenced (start : Nat) (ops : List SourceOp) (left : Nat) (pt : Point) : Prop where
  place : pt.place ≤ start + ops.length
  inMacro : pt.inMacro = false
  safe : ∀ n, Safe (fenced start ops left) n pt

theorem CodeAt.getElem?_add {full ops : List SourceOp} {start i : Nat} (code : CodeAt full start ops)
    (inside : i < ops.length) : full[start + i]? = ops[i]? := by
  obtain ⟨before, after, rfl, rfl⟩ := code
  rw [List.append_assoc, List.getElem?_append_right (Nat.le_add_right ..), Nat.add_sub_cancel_left,
    List.getElem?_append_left inside]

namespace Point

variable {κ ν μ : Type} {pt pt' : Point} {op : Op κ ν μ}

theorem inMacro_of_next (h : pt' ∈ pt.next op) : pt'.inMacro = pt.inMacro := by
  cases op <;> simp only [next, List.mem_cons, List.not_mem_nil, or_false] at h <;> grind

/-- An operation leads to the next one or to a target of its own. -/
theorem place_le_of_next {op : SourceOp} {last : Nat} (h : pt' ∈ pt.next op) (before : pt.place < last)
    (stays : op.StaysWithin last) : pt'.place ≤ last := by
  cases op <;> simp only [next, List.mem_cons, List.not_mem_nil, or_false] at h <;> grind

end Point

section

variable {full ops : List SourceOp} {start place left : Nat} {pt : Point}

/-- What is safe for any number of steps leads to what is. -/
theorem Safe.exists_op (safe : ∀ n, Safe full n pt) :
    ∃ op, full[pt.place]? = some op ∧ pt.Allows op ∧ ∀ pt' ∈ pt.next op, ∀ n, Safe full n pt' := by
  obtain ⟨op, known, allows, -⟩ := safe 1
  refine ⟨op, known, allows, fun pt' member n => ?_⟩
  obtain ⟨op', known', -, later⟩ := safe (n + 1)
  obtain rfl := Option.some.inj (known.symm.trans known')
  exact later pt' member

theorem safe_end (code : CodeAt full place (List.replicate left .pop ++ [.finish])) (n : Nat) :
    Safe full n ⟨place, left, 0, false⟩ := by
  induction left generalizing place with
  | zero => exact Safe.pred (.of_next code ⟨rfl, rfl, rfl⟩ nofun)
  | succ left ih =>
    rw [List.replicate_succ, List.cons_append] at code
    exact (ih (code.tail rfl)).before code (fun _ => ⟨id, rfl⟩) rfl rfl (Nat.le_add_left ..)

theorem end_of_safe (code : CodeAt full place (List.replicate left .pop ++ [.finish]))
    (here : pt.place = place) (safe : ∀ n, Safe full n pt) : pt.height = left ∧ pt.loops = 0 := by
  induction left generalizing place pt with
  | zero =>
    obtain ⟨op, known, allows, -⟩ := Safe.exists_op safe
    rw [here, code.getElem?] at known
    cases known
    exact ⟨allows.1, allows.2.1⟩
  | succ left ih =>
    rw [List.replicate_succ, List.cons_append] at code
    obtain ⟨op, known, allows, later⟩ := Safe.exists_op safe
    rw [here, code.getElem?] at known
    cases known
    obtain ⟨height, loops⟩ := ih (code.tail rfl) (congrArg (· + 1) here)
      (List.forall_mem_singleton.mp later)
    have enough : 1 ≤ pt.height := allows
    simp only [Op.operands, Op.results] at height
    exact ⟨by omega, loops⟩

theorem codeAt_fenced (start : Nat) (ops : List SourceOp) (left : Nat) :
    CodeAt (fenced start ops left) start (ops ++ (List.replicate left .pop ++ [.finish])) :=
  ⟨List.replicate start .macroReturn, [], by simp [fenced], by simp⟩

theorem fenced_before (h : place < start) : (fenced start ops left)[place]? = some .macroReturn := by
  rw [fenced, List.append_assoc, List.getElem?_append_left (by simpa using h)]
  simp [h]

namespace Fenced

/-- At its end a piece has made its values and has left its loops. -/
theorem ended (h : Fenced start ops left pt) (place : pt.place = start + ops.length) :
    pt.height = left ∧ pt.loops = 0 :=
  end_of_safe ((codeAt_fenced start ops left).right rfl) place h.safe

/-- Before its end a piece goes on with one of its operations. -/
theorem exists_op (h : Fenced start ops left pt) (stays : StayWithin (start + ops.length) ops)
    (code : CodeAt full start ops) (more : pt.place ≠ start + ops.length) :
    ∃ op ∈ ops, full[pt.place]? = some op ∧ pt.Allows op ∧
      ∀ pt' ∈ pt.next op, Fenced start ops left pt' := by
  obtain ⟨op, known, allows, later⟩ := Safe.exists_op h.safe
  by_cases before : pt.place < start
  · rw [fenced_before before] at known
    cases known
    exact absurd (h.inMacro.symm.trans allows.2) Bool.false_ne_true
  · obtain ⟨i, place⟩ := Nat.exists_eq_add_of_le (Nat.le_of_not_lt before)
    have bound := h.place
    have inside : i < ops.length := by omega
    rw [place, (codeAt_fenced start ops left).left.getElem?_add inside] at known
    have member := List.mem_of_getElem? known
    refine ⟨op, member, ?_, allows, fun pt' next => ⟨?_, ?_, later pt' next⟩⟩
    · rw [place, code.getElem?_add inside, known]
    · exact Point.place_le_of_next next (Nat.lt_of_le_of_ne bound more) (stays op member)
    · exact (Point.inMacro_of_next next).trans h.inMacro

/-- A piece is not left to the front. -/
theorem start_le (h : Fenced start ops left pt) : start ≤ pt.place := by
  by_contra before
  obtain ⟨op, known, allows, -⟩ := Safe.exists_op h.safe
  rw [fenced_before (Nat.lt_of_not_le before)] at known
  cases known
  exact absurd (h.inMacro.symm.trans allows.2) Bool.false_ne_true

end Fenced

mutual

theorem ExprCode.evaluates : ∀ {start e ops}, ExprCode start e ops → ∀ op ∈ ops, op.Evaluates
  | _, _, _, .literal | _, _, _, .var => by grind
  | _, _, _, .list each => by
    have inner := each.evaluates
    grind
  | _, _, _, .attr inner | _, _, _, .filter _ inner | _, _, _, .neg inner | _, _, _, .not inner => by
    have inner := inner.evaluates
    grind
  | _, _, _, .call callee each => by
    have first := callee.evaluates
    have others := each.evaluates
    grind
  | _, _, _, .index left right | _, _, _, .binary left right | _, _, _, .conj left right
  | _, _, _, .disj left right => by
    have first := left.evaluates
    have second := right.evaluates
    grind

theorem ExprListCode.evaluates : ∀ {start items ops}, ExprListCode start items ops →
    ∀ op ∈ ops, op.Evaluates
  | _, _, _, .nil => nofun
  | _, _, _, .cons first others => by
    have first := first.evaluates
    have others := others.evaluates
    grind

end

theorem ArgsCode.evaluates {start args ops} (h : ArgsCode start args ops) :
    ∀ op ∈ ops, op.Evaluates := by
  induction h with
  | nil => exact nofun
  | cons first _ ih =>
    have first := first.evaluates
    grind

variable {options : CompileOptions}

mutual

/-- Only the end of a template ends it. -/
theorem NodeCode.ne_finish : ∀ {start node ops}, NodeCode options start node ops →
    ∀ op ∈ ops, op ≠ .finish
  | _, _, _, .noText => nofun
  | _, _, _, .text _ => by grind
  | _, _, _, .print value | _, _, _, .assign value => by
    have inner := value.evaluates
    grind
  | _, _, _, .branch test body rest => by
    have cond := test.evaluates
    have inner := body.ne_finish
    have others := rest.ne_finish
    grind
  | _, _, _, .foreach items body | _, _, _, .loop items body => by
    have head := items.evaluates
    have inner := body.ne_finish
    grind
  | _, _, _, .define body => by
    have inner := body.ne_finish
    grind
  | _, _, _, .inclusion template args => by
    have name := template.evaluates
    have entries := args.evaluates
    grind

theorem RestCode.ne_finish : ∀ {start rest ops}, RestCode options start rest ops →
    ∀ op ∈ ops, op ≠ .finish
  | _, _, _, .done => nofun
  | _, _, _, .otherwise body => body.ne_finish
  | _, _, _, .elsif test body rest => by
    have cond := test.evaluates
    have inner := body.ne_finish
    have others := rest.ne_finish
    grind

theorem BodyCode.ne_finish : ∀ {start body ops}, BodyCode options start body ops →
    ∀ op ∈ ops, op ≠ .finish
  | _, _, _, .nil => nofun
  | _, _, _, .cons node rest => by
    have first := node.ne_finish
    have others := rest.ne_finish
    grind

end

theorem ExprCode.fenced {e : Expr} (code : ExprCode start e ops) :
    Fenced start ops 1 ⟨start, 0, 0, false⟩ where
  place := Nat.le_add_right ..
  inMacro := rfl
  safe n := by
    have alone := codeAt_fenced start ops 1
    exact code.safe alone.left (safe_end (alone.right rfl) n)

theorem BodyCode.fenced {body : List Node} (code : BodyCode options start body ops) :
    Fenced start ops 0 ⟨start, 0, 0, false⟩ where
  place := Nat.le_add_right ..
  inMacro := rfl
  safe n := by
    have alone := codeAt_fenced start ops 0
    exact code.safe alone.left (safe_end (alone.right rfl) n)

end

end TemplateEngine
