import TemplateEngine.Proofs.Program.Checked
import TemplateEngine.Proofs.Program.Code
import TemplateEngine.Proofs.Program.CodeAt

/-!
# Compiled programs pass the check

Jumps and macros of a piece of code do not lead behind its end, and laying out gives
every operation its operands. So whatever the compiler makes passes the check.
-/

namespace TemplateEngine

/-- The operation leads at most to a place. -/
@[grind =]
def Op.StaysWithin (last : Nat) : SourceOp → Prop
  | .jump t | .popJumpIfFalse t | .jumpIfFalseOrPop t | .jumpIfTrueOrPop t | .forIter _ t =>
    t ≤ last
  | .makeMacro callee => callee.entry ≤ last
  | _ => True

/-- All operations lead at most to a place. -/
abbrev StayWithin (last : Nat) (ops : List SourceOp) : Prop := ∀ op ∈ ops, op.StaysWithin last

section

variable {options : CompileOptions} {last : Nat}

mutual

theorem ExprCode.stays : ∀ {start e ops}, ExprCode start e ops → start + ops.length ≤ last →
    StayWithin last ops
  | _, _, _, .literal, _ | _, _, _, .var, _ => by grind
  | _, _, _, .list each, _ => by
    have inner := each.stays (by grind)
    grind
  | _, _, _, .attr inner, _ | _, _, _, .filter _ inner, _ | _, _, _, .neg inner, _
  | _, _, _, .not inner, _ => by
    have inner := inner.stays (by grind)
    grind
  | _, _, _, .call callee each, _ => by
    have first := callee.stays (by grind)
    have others := each.stays (by grind)
    grind
  | _, _, _, .index left right, _ | _, _, _, .binary left right, _
  | _, _, _, .conj left right, _ | _, _, _, .disj left right, _ => by
    have first := left.stays (by grind)
    have second := right.stays (by grind)
    grind

theorem ExprListCode.stays : ∀ {start items ops}, ExprListCode start items ops →
    start + ops.length ≤ last → StayWithin last ops
  | _, _, _, .nil, _ => nofun
  | _, _, _, .cons first others, _ => by
    have first := first.stays (by grind)
    have others := others.stays (by grind)
    grind

end

theorem ArgsCode.stays {start args ops} (h : ArgsCode start args ops)
    (le : start + ops.length ≤ last) : StayWithin last ops := by
  induction h with
  | nil => exact nofun
  | cons first _ ih =>
    have first := first.stays (show _ ≤ last by grind)
    have others := ih (by grind)
    grind

mutual

theorem NodeCode.stays : ∀ {start node ops}, NodeCode options start node ops →
    start + ops.length ≤ last → StayWithin last ops
  | _, _, _, .noText, _ => nofun
  | _, _, _, .text _, _ => by grind
  | _, _, _, .print value, _ | _, _, _, .assign value, _ => by
    have inner := value.stays (show _ ≤ last by grind)
    grind
  | _, _, _, .branch test body rest, _ => by
    have cond := test.stays (show _ ≤ last by grind)
    have inner := body.stays (show _ ≤ last by grind)
    have others := rest.stays (show _ ≤ last by grind)
    grind
  | _, _, _, .foreach items body, _ | _, _, _, .loop items body, _ => by
    have head := items.stays (show _ ≤ last by grind)
    have inner := body.stays (show _ ≤ last by grind)
    grind
  | _, _, _, .define body, _ => by
    have inner := body.stays (show _ ≤ last by grind)
    grind
  | _, _, _, .inclusion template args, _ => by
    have name := template.stays (show _ ≤ last by grind)
    have entries := args.stays (show _ ≤ last by grind)
    grind

theorem RestCode.stays : ∀ {start rest ops}, RestCode options start rest ops →
    start + ops.length ≤ last → StayWithin last ops
  | _, _, _, .done, _ => nofun
  | _, _, _, .otherwise body, le => body.stays le
  | _, _, _, .elsif test body rest, _ => by
    have cond := test.stays (show _ ≤ last by grind)
    have inner := body.stays (show _ ≤ last by grind)
    have others := rest.stays (show _ ≤ last by grind)
    grind

theorem BodyCode.stays : ∀ {start body ops}, BodyCode options start body ops →
    start + ops.length ≤ last → StayWithin last ops
  | _, _, _, .nil, _ => nofun
  | _, _, _, .cons node rest, _ => by
    have first := node.stays (show _ ≤ last by grind)
    have others := rest.stays (show _ ≤ last by grind)
    grind

end

end

theorem Pools.target_layOut (p : Pools) (op : SourceOp) : (p.layOut op).1.target? = op.target? := by
  cases op <;> rfl

/-- Each instruction of laid out code can be resolved. -/
theorem Program.exists_resolve_ofOps {name : String} {full : List SourceOp} {i : Instruction}
    (member : i ∈ (ofOps name full).instructions) :
    ∃ op, (ofOps name full).resolve i = .ok op := by
  obtain ⟨k, at_k⟩ := Array.mem_iff_getElem?.mp member
  have laid := at_k
  rw [Pools.ofOps_eq, Pools.program, List.getElem?_toArray] at laid
  obtain ⟨op, -, known, -⟩ := Pools.exists_layOut laid
  -- The instruction is the one that a level at its place fetches.
  have fetched := Level.fetch_ofOps (l := { Level.start ⟨0, ofOps name full⟩ [] 0 with ip := k }) rfl
    (CodeAt.of_getElem? known)
  obtain ⟨i', at_ip, resolved⟩ := Level.fetch_eq_ok.mp fetched
  obtain rfl : i = i' := Option.some.inj (at_k.symm.trans at_ip)
  exact ⟨_, resolved⟩

/-- A compiled program passes the check. -/
theorem Template.checked_of_compile {options : CompileOptions} {source : String} {t : Template}
    {p : Program} (compiled : t.compile options source = .ok p) : p.Checked := by
  obtain ⟨ops, code, rfl⟩ := Template.code_of_compile compiled
  have size : (Program.ofOps t.name (ops ++ [.finish])).instructions.size = ops.length + 1 := by
    simp [Pools.ofOps_eq, Pools.program]
  have stays : StayWithin ops.length (ops ++ [Op.finish]) := by
    have inner := code.stays (Nat.le_of_eq (Nat.zero_add _))
    grind
  refine ⟨?_, fun i => Program.exists_resolve_ofOps, ?_, ?_⟩
  · simp [Pools.ofOps_eq, Pools.program, Pools.layOutAll_append, Pools.layOutAll, Pools.layOut]
  · intro i member t' target
    obtain ⟨k, at_k⟩ := Array.mem_iff_getElem?.mp member
    rw [Pools.ofOps_eq, Pools.program, List.getElem?_toArray] at at_k
    obtain ⟨op, q, known, rfl⟩ := Pools.exists_layOut at_k
    rw [Pools.target_layOut] at target
    have within_ops := stays op (List.mem_of_getElem? known)
    cases op <;> cases target <;> exact size ▸ Nat.lt_succ_of_le within_ops
  · intro callee member
    rw [Program.macros_ofOps, List.mem_toArray] at member
    obtain ⟨op, known, defines⟩ := List.mem_filterMap.mp member
    have within_ops := stays op known
    cases op <;> cases defines
    exact size ▸ Nat.lt_succ_of_le within_ops

end TemplateEngine
