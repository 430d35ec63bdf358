import TemplateEngine.Proofs.Program.Pools
import TemplateEngine.Proofs.Program.Routines

/-!
# The tables of a compiled program

A compiled program has each constant and each name once, in the order of their first use,
and every operand keeps the place that it was given when its operation was laid out. Each
entry of the macro table is made at one place, where a jump leads over its body.
-/

namespace TemplateEngine

/-- The macro is made at a place; its body, which ends with a return, stands behind a jump to what
comes after it. -/
structure MacroDef.DefinedAt (options : CompileOptions) (full : List SourceOp) (callee : MacroDef)
    (place : Nat) : Prop where
  entry : callee.entry = place + 3
  body : ∃ body inner, BodyCode options callee.entry body inner ∧
    full[place + 2]? = some (.jump (callee.entry + inner.length + 1)) ∧
    CodeAt full callee.entry (inner ++ [.macroReturn])

/-- Every macro of a piece of code is defined where it is made. -/
def Defines (options : CompileOptions) (full : List SourceOp) (start : Nat) (ops : List SourceOp) :
    Prop :=
  ∀ (i : Nat) (callee : MacroDef), ops[i]? = some (.makeMacro callee) →
    callee.DefinedAt options full (start + i)

section

variable {options : CompileOptions} {full ops ops' : List SourceOp} {op : SourceOp} {start next : Nat}

theorem defines_of_callees (none : ops.filterMap Op.callee? = []) :
    Defines options full start ops := by
  intro i callee found
  have made := List.filterMap_eq_nil_iff.mp none _ (List.mem_of_getElem? found)
  cases made

theorem Defines.append (h : Defines options full start ops)
    (h' : Defines options full next ops') (e : next = start + ops.length) :
    Defines options full start (ops ++ ops') := by
  intro i callee found
  by_cases inside : i < ops.length
  · rw [List.getElem?_append_left inside] at found
    exact h i callee found
  · rw [List.getElem?_append_right (Nat.le_of_not_lt inside)] at found
    have place : start + i = next + (i - ops.length) := by omega
    rw [place]
    exact h' _ callee found

theorem Defines.cons (none : op.callee? = none) (h : Defines options full next ops)
    (e : next = start + 1) : Defines options full start (op :: ops) := by
  have first : Defines options full start [op] :=
    defines_of_callees (List.filterMap_cons_none none)
  exact first.append h e

/-- One operation that makes no macro, behind code that does. -/
theorem Defines.snoc (h : Defines options full start ops) (none : op.callee? = none) :
    Defines options full start (ops ++ [op]) :=
  h.append (defines_of_callees (List.filterMap_cons_none none)) rfl

theorem defines_branch {cond inner others : List SourceOp} (none : cond.filterMap Op.callee? = [])
    (code_at : CodeAt full start (branchCode start cond inner others))
    (hi : CodeAt full (start + cond.length + 1) inner →
      Defines options full (start + cond.length + 1) inner)
    (ho : CodeAt full (start + cond.length + 1 + inner.length + 1) others →
      Defines options full (start + cond.length + 1 + inner.length + 1) others) :
    Defines options full start (branchCode start cond inner others) := by
  have inner_at := (code_at.right rfl).tail rfl
  have others_at := (inner_at.right rfl).tail rfl
  refine (defines_of_callees none).append (.cons (by rfl) ?_ rfl) rfl
  exact (hi inner_at.left).append (.cons (by rfl) (ho others_at) rfl) rfl

mutual

theorem NodeCode.defines : ∀ {start node ops}, NodeCode options start node ops →
    CodeAt full start ops → Defines options full start ops
  | _, _, _, .noText, _ => defines_of_callees rfl
  | _, _, _, .text _, _ => defines_of_callees rfl
  | _, _, _, .print h, _ => (defines_of_callees h.callees).snoc rfl
  | _, _, _, .branch cond inner others, code_at =>
    defines_branch cond.callees code_at inner.defines others.defines
  | _, _, _, .foreach h inner, code_at => by
    have inner_at := (((code_at.right rfl).tail rfl).tail rfl).left
    refine (defines_of_callees h.callees).append (.cons (by rfl) (.cons (by rfl) ?_ rfl) rfl) rfl
    exact (inner.defines inner_at).snoc rfl
  | _, _, _, .loop h inner, code_at => by
    have inner_at := ((code_at.right rfl).tail rfl).left
    refine (defines_of_callees h.callees).append (.cons (by rfl) ?_ rfl) rfl
    exact (inner.defines inner_at).snoc rfl
  | _, _, _, .assign h, _ => (defines_of_callees h.callees).snoc rfl
  | start, _, _, @NodeCode.define _ _ name params body inner h, code_at => by
    have jump_at := (code_at.tail rfl).tail rfl
    have inner_at := jump_at.tail rfl
    have made : Defines options full start [.makeMacro ⟨name, params.map Prod.fst, start + 3⟩] := by
      intro i callee found
      obtain ⟨rfl, rfl⟩ : i = 0 ∧ callee = ⟨name, params.map Prod.fst, start + 3⟩ := by
        cases i with
        | zero => simpa [eq_comm] using found
        | succ i => simp at found
      exact ⟨rfl, body, inner, h, jump_at.getElem?, inner_at⟩
    refine made.append (.cons (by rfl) (.cons (by rfl) ?_ rfl) rfl) rfl
    exact (h.defines inner_at.left).snoc rfl
  | _, _, _, .inclusion h h', _ =>
    defines_of_callees (by simp [h.callees, h'.callees, Op.callee?])

theorem RestCode.defines : ∀ {start rest ops}, RestCode options start rest ops →
    CodeAt full start ops → Defines options full start ops
  | _, _, _, .done, _ => defines_of_callees rfl
  | _, _, _, .otherwise inner, code_at => inner.defines code_at
  | _, _, _, .elsif cond inner others, code_at =>
    defines_branch cond.callees code_at inner.defines others.defines

theorem BodyCode.defines : ∀ {start body ops}, BodyCode options start body ops →
    CodeAt full start ops → Defines options full start ops
  | _, _, _, .nil, _ => defines_of_callees rfl
  | _, _, _, .cons h h', code_at =>
    (h.defines code_at.left).append (h'.defines (code_at.right rfl)) rfl

end

/-- The macros of some code are made one after the other. -/
theorem exists_of_callees {n : Nat} {callee : MacroDef}
    (h : (full.filterMap Op.callee?)[n]? = some callee) :
    ∃ place, full[place]? = some (.makeMacro callee) ∧ macrosBefore full place = n := by
  obtain ⟨inside, found⟩ := List.getElem?_eq_some_iff.mp h
  have split := (List.take_append_drop n (full.filterMap Op.callee?)).symm
  rw [List.drop_eq_getElem_cons inside, found] at split
  obtain ⟨front, rest, rfl, before, later⟩ := List.filterMap_eq_append_iff.mp split
  obtain ⟨skipped, op, back, rfl, none, made, -⟩ := List.filterMap_eq_cons_iff.mp later
  refine ⟨(front ++ skipped).length, ?_, ?_⟩
  · cases op <;> cases made
    simp
  · rw [macrosBefore, ← List.append_assoc, List.take_left' rfl, List.filterMap_append,
      List.filterMap_eq_nil_iff.mpr none, List.append_nil, before,
      List.length_take_of_le (Nat.le_of_lt inside)]

theorem macrosBefore_mono {place place' : Nat} (le : place ≤ place') :
    macrosBefore full place ≤ macrosBefore full place' :=
  ((List.take_prefix_take_left le).filterMap _).length_le

/-- A macro more is made after each place where one is. -/
theorem macrosBefore_lt {place place' : Nat} {callee : MacroDef}
    (made : full[place]? = some (.makeMacro callee)) (lt : place < place') :
    macrosBefore full place < macrosBefore full place' := by
  have next : macrosBefore full (place + 1) = macrosBefore full place + 1 :=
    (CodeAt.of_getElem? made).macrosBefore_add
  have later : macrosBefore full (place + 1) ≤ macrosBefore full place' := macrosBefore_mono lt
  omega

end

theorem Pools.layOut_eq_makeMacro_iff {p : Pools} {op : SourceOp} {n : Nat} :
    (p.layOut op).1 = .makeMacro n ↔ ∃ callee, op = .makeMacro callee ∧ p.macros.length = n := by
  cases op <;> simp [layOut, placeMacro]

/-- An instruction makes a macro if its operation does, the one with the number of macros that are
made before it. -/
theorem Program.getElem?_eq_makeMacro_iff {full : List SourceOp} {name : String} {place n : Nat} :
    (ofOps name full).instructions[place]? = some (.makeMacro n) ↔
      ∃ callee, full[place]? = some (.makeMacro callee) ∧ macrosBefore full place = n := by
  by_cases inside : place < full.length
  · have known := List.getElem?_eq_getElem inside
    obtain ⟨before, after, split, rfl⟩ := CodeAt.of_getElem? known
    rw [List.append_assoc, List.singleton_append] at split
    rw [getElem?_ofOps name split, known, Option.some_inj, Pools.instructionAfter,
      Pools.layOut_eq_makeMacro_iff, length_macros_layOutAll split]
    simp only [Option.some_inj]
  · have outside : (ofOps name full).instructions.size ≤ place := by
      simpa [Pools.ofOps_eq, Pools.program] using inside
    simp [Array.getElem?_eq_none outside, List.getElem?_eq_none (Nat.le_of_not_lt inside)]

/-- Only one instruction makes a macro. -/
theorem Program.makeMacro_unique {full : List SourceOp} {name : String} {place : Nat}
    {callee : MacroDef} (made : full[place]? = some (.makeMacro callee)) (k : Nat) :
    (ofOps name full).instructions[k]? = some (.makeMacro (macrosBefore full place)) ↔ k = place := by
  rw [getElem?_eq_makeMacro_iff]
  constructor
  · rintro ⟨callee', made', count⟩
    rcases Nat.lt_trichotomy k place with lt | same | lt
    · exact absurd (macrosBefore_lt made' lt) (by omega)
    · exact same
    · exact absurd (macrosBefore_lt made lt) (by omega)
  · rintro rfl
    exact ⟨callee, made, rfl⟩

/-- In a compiled program constants and names are distinct, each is used, and their first uses come
in the order of their places. Every operand is at the place that it got when its operation was laid
out. Each macro is made by one instruction, two before the jump that leads over its body. -/
theorem Template.tables_of_compile {options : CompileOptions} {source : String} {t : Template}
    {p : Program} (compiled : t.compile options source = .ok p) :
    Minimal p.constants.toList (p.instructions.toList.filterMap Op.constant?) ∧
    Minimal p.names.toList (p.instructions.toList.filterMap Op.name?) ∧
    ∃ ops : List SourceOp, Node.codeList options 0 t.body = .ok ops ∧
      p.instructions.size = ops.length + 1 ∧
      (∀ (before : List SourceOp) (op : SourceOp) (after : List SourceOp),
        ops ++ [.finish] = before ++ op :: after →
        p.instructions[before.length]? = some (Pools.instructionAfter before op) ∧
        p.resolve (Pools.instructionAfter before op)
          = .ok (op.resolved (macrosBefore (ops ++ [.finish]) before.length))) ∧
      ∀ (n : Nat) (callee : MacroDef), p.macros[n]? = some callee →
        ∃ (place : Nat) (body : List Node) (inner : List SourceOp),
        (∀ k, p.instructions[k]? = some (.makeMacro n) ↔ k = place) ∧
        callee.entry = place + 3 ∧
        p.instructions[place + 2]? = some (.jump (callee.entry + inner.length + 1)) ∧
        BodyCode options callee.entry body inner ∧
        CodeAt (ops ++ [.finish]) callee.entry (inner ++ [.macroReturn]) := by
  obtain ⟨ops, coded, rfl⟩ := codeList_of_compile compiled
  refine ⟨Pools.places_constants.minimal rfl _, Pools.places_names.minimal rfl _, ops, coded,
    ?_, ?_, ?_⟩
  · simp [Pools.ofOps_eq, Pools.program]
  · intro before op after split
    exact ⟨Program.getElem?_ofOps t.name split, Program.resolve_ofOps t.name split⟩
  · intro n callee found
    rw [Program.macros_ofOps, List.getElem?_toArray] at found
    obtain ⟨place, made, rfl⟩ := exists_of_callees found
    have code := Node.bodyCode_of_code t.body coded
    have defines : Defines options (ops ++ [.finish]) 0 (ops ++ [.finish]) :=
      (code.defines (CodeAt.whole _).left).snoc rfl
    obtain ⟨entry, body, inner, inner_code, jump, inner_at⟩ := defines place callee made
    rw [Nat.zero_add] at entry jump
    refine ⟨place, body, inner, Program.makeMacro_unique made, entry, ?_, inner_code, inner_at⟩
    obtain ⟨before, after, split, len⟩ := CodeAt.of_getElem? jump
    rw [List.append_assoc, List.singleton_append] at split
    rw [← len, Program.getElem?_ofOps t.name split]
    rfl

namespace Twice

/-- A page with a macro that uses its parameter twice. -/
def page : Template where
  name := "page"
  body := [
    .define "twice" [("x", ⟨0, 1⟩)] [.print (.binary .concat (.var "x") (.var "x"))],
    .print (.call (.var "twice") [.literal (.int 1)]),
    .print (.literal (.int 1))]

def program : Program where
  name := "page"
  constants := #[.int 1]
  names := #["twice", "x"]
  macros := #[⟨"twice", ["x"], 3⟩]
  instructions := #[.makeMacro 0, .storeVar 0, .jump 8, .loadVar 1, .loadVar 1, .binOp .concat,
    .print .html, .macroReturn, .loadVar 0, .constLoad 0, .macroCall 1, .print .html, .constLoad 0,
    .print .html, .finish]

theorem tables_of_compile_twice :
    page.compile ⟨true⟩ "" = .ok program ∧
      (program.instructions.toList.filterMap Op.name?).eraseDups = [0, 1] := by
  have compiled : page.compile ⟨true⟩ "" = .ok program := rfl
  obtain ⟨-, names, -⟩ := Template.tables_of_compile compiled
  exact ⟨compiled, names.firstUses⟩

end Twice
end TemplateEngine
