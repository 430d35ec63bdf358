import Mathlib.Data.List.Forall2
import TemplateEngine.Proofs.Meaning.Interpreter
import TemplateEngine.Proofs.Program.Code
import TemplateEngine.Proofs.Program.CodeAt

/-!
# The macros of a compiled template

The macro table of a program lists the macros of the template in the order of
their tags, and the body of each stands in the code at its entry.
-/

namespace TemplateEngine

mutual

/-- Expressions define no macros. -/
theorem ExprCode.callees : ∀ {start e ops}, ExprCode start e ops → ops.filterMap Op.callee? = []
  | _, _, _, .literal => rfl
  | _, _, _, .list h => by simp [h.callees, Op.callee?]
  | _, _, _, .var => rfl
  | _, _, _, .attr h => by simp [h.callees, Op.callee?]
  | _, _, _, .index h h' => by simp [h.callees, h'.callees, Op.callee?]
  | _, _, _, .call h h' => by simp [h.callees, h'.callees, Op.callee?]
  | _, _, _, .filter _ h => by simp [h.callees, Op.callee?]
  | _, _, _, .neg h => by simp [h.callees, Op.callee?]
  | _, _, _, .not h => by simp [h.callees, Op.callee?]
  | _, _, _, .binary h h' => by simp [h.callees, h'.callees, Op.callee?]
  | _, _, _, .conj h h' => by simp [h.callees, h'.callees, List.filterMap_cons, Op.callee?]
  | _, _, _, .disj h h' => by simp [h.callees, h'.callees, List.filterMap_cons, Op.callee?]

theorem ExprListCode.callees :
    ∀ {start items ops}, ExprListCode start items ops → ops.filterMap Op.callee? = []
  | _, _, _, .nil => rfl
  | _, _, _, .cons h h' => by simp [h.callees, h'.callees]

end

theorem ArgsCode.callees {start args ops} (h : ArgsCode start args ops) :
    ops.filterMap Op.callee? = [] := by
  induction h with
  | nil => rfl
  | cons h _ ih => simp [h.callees, ih, List.filterMap_cons, Op.callee?]

/-- The entry `callee` of the macro table stands for the macro `r`. -/
structure Routine.Located (options : CompileOptions) (full : List SourceOp) (r : Routine)
    (callee : MacroDef) : Prop where
  name : callee.name = r.name
  params : callee.params = r.params
  first : macrosBefore full callee.entry = r.first
  body : ∃ inner, BodyCode options callee.entry r.body inner ∧
    CodeAt full callee.entry (inner ++ [.macroReturn])

/-- The macros that a piece of code defines are the given ones, in this order. -/
abbrev Located (options : CompileOptions) (full : List SourceOp) (routines : List Routine)
    (ops : List SourceOp) : Prop :=
  List.Forall₂ (Routine.Located options full) routines (ops.filterMap Op.callee?)

variable {options : CompileOptions} {full : List SourceOp}

theorem Located.macrosBefore_add {routines : List Routine} {ops : List SourceOp}
    {start first next : Nat} (located : Located options full routines ops)
    (code_at : CodeAt full start ops) (before : macrosBefore full start = first)
    (e : next = start + ops.length) : macrosBefore full next = first + routines.length := by
  rw [e, code_at.macrosBefore_add, before, located.length_eq]

theorem CodeAt.macrosBefore_eq {ops : List SourceOp} {start first next : Nat}
    (code_at : CodeAt full start ops) (none : ops.filterMap Op.callee? = [])
    (before : macrosBefore full start = first) (e : next = start + ops.length) :
    macrosBefore full next = first := by
  rw [e, code_at.macrosBefore_add, before, none]
  rfl

/-- One operation after a piece of code, both without macros. -/
theorem CodeAt.macrosBefore_skip {front rest : List SourceOp} {op : SourceOp}
    {start first next : Nat} (code_at : CodeAt full start (front ++ op :: rest))
    (hf : front.filterMap Op.callee? = []) (ho : op.callee? = none)
    (before : macrosBefore full start = first) (e : next = start + front.length + 1) :
    macrosBefore full next = first := by
  have reached := code_at.left.macrosBefore_eq hf before rfl
  exact (code_at.right rfl).head.macrosBefore_eq (by simp [ho]) reached e

theorem Located.append {r r' : List Routine} {ops ops' : List SourceOp}
    (h : Located options full r ops) (h' : Located options full r' ops') :
    Located options full (r ++ r') (ops ++ ops') := by
  rw [Located, List.filterMap_append]
  exact List.rel_append h h'

/-- Code without macros in front of code with macros and behind it. -/
theorem Located.between {r : List Routine} {front ops back : List SourceOp} {start first : Nat}
    (hf : front.filterMap Op.callee? = []) (hb : back.filterMap Op.callee? = [])
    (code_at : CodeAt full start (front ++ (ops ++ back))) (before : macrosBefore full start = first)
    (h : CodeAt full (start + front.length) ops →
      macrosBefore full (start + front.length) = first → Located options full r ops) :
    Located options full r (front ++ (ops ++ back)) := by
  have inner := h (code_at.right rfl).left (code_at.left.macrosBefore_eq hf before rfl)
  rw [Located, List.filterMap_append, List.filterMap_append, hf, hb, List.append_nil]
  exact inner

/-- The numbers of the first macros of the body of a branch and of what follows. -/
theorem macrosBefore_branch {start first : Nat} {cond inner others : List SourceOp}
    {r : List Routine} (hc : cond.filterMap Op.callee? = [])
    (code_at : CodeAt full start (branchCode start cond inner others))
    (before : macrosBefore full start = first)
    (hi : CodeAt full (start + cond.length + 1) inner →
      macrosBefore full (start + cond.length + 1) = first → Located options full r inner) :
    macrosBefore full (start + cond.length + 1) = first ∧
      macrosBefore full (start + cond.length + 1 + inner.length + 1) = first + r.length := by
  have inner_at := (code_at.right rfl).tail rfl
  have before_inner := code_at.macrosBefore_skip hc rfl before rfl
  have before_jump := (hi inner_at.left before_inner).macrosBefore_add inner_at.left before_inner rfl
  exact ⟨before_inner, (inner_at.right rfl).head.macrosBefore_eq rfl before_jump rfl⟩

theorem located_branch {start first : Nat} {cond inner others : List SourceOp}
    {r r' : List Routine} (hc : cond.filterMap Op.callee? = [])
    (code_at : CodeAt full start (branchCode start cond inner others))
    (before : macrosBefore full start = first)
    (hi : CodeAt full (start + cond.length + 1) inner →
      macrosBefore full (start + cond.length + 1) = first → Located options full r inner)
    (ho : CodeAt full (start + cond.length + 1 + inner.length + 1) others →
      macrosBefore full (start + cond.length + 1 + inner.length + 1) = first + r.length →
      Located options full r' others) :
    Located options full (r ++ r') (branchCode start cond inner others) := by
  have inner_at := (code_at.right rfl).tail rfl
  have others_at := (inner_at.right rfl).tail rfl
  obtain ⟨before_inner, before_others⟩ := macrosBefore_branch hc code_at before hi
  have parts := (hi inner_at.left before_inner).append (ho others_at before_others)
  rw [Located, List.filterMap_append] at parts ⊢
  simpa [hc, List.filterMap_cons, Op.callee?] using parts

mutual

theorem NodeCode.located : ∀ {start node ops}, NodeCode options start node ops →
    ∀ {first}, CodeAt full start ops → macrosBefore full start = first →
    Located options full (node.routines first) ops
  | _, _, _, .noText, _, _, _ => .nil
  | _, _, _, .text _, _, _, _ => .nil
  | _, _, _, .print h, _, _, _ => by simp [Located, Node.routines, h.callees, Op.callee?]
  | _, _, _, .branch cond inner others, _, code_at, before =>
    located_branch cond.callees code_at before
      (fun h e => inner.located h e) (fun h e => others.located h e)
  | _, _, _, @NodeCode.foreach _ _ _ _ _ items _ h inner, _, code_at, before => by
    have shape (a b) (rest : List SourceOp) : items ++ a :: b :: rest = (items ++ [a, b]) ++ rest := by
      simp
    rw [shape] at code_at ⊢
    apply Located.between (by simp [h.callees, Op.callee?]) rfl code_at before
    intro at_inner e
    simp only [List.length_append, ← Nat.add_assoc] at at_inner e
    exact inner.located at_inner e
  | _, _, _, @NodeCode.loop _ _ _ _ cond _ h inner, _, code_at, before => by
    have shape (a) (rest : List SourceOp) : cond ++ a :: rest = (cond ++ [a]) ++ rest := by simp
    rw [shape] at code_at ⊢
    apply Located.between (by simp [h.callees, Op.callee?]) rfl code_at before
    intro at_inner e
    simp only [List.length_append, ← Nat.add_assoc] at at_inner e
    exact inner.located at_inner e
  | _, _, _, .assign h, _, _, _ => by simp [Located, Node.routines, h.callees, Op.callee?]
  | _, _, _, .define inner, _, code_at, before => by
    have inner_at := ((code_at.tail rfl).tail rfl).tail rfl
    have before_inner := (CodeAt.left (a := [_, _, _]) code_at).macrosBefore_add
    rw [before] at before_inner
    have located := inner.located inner_at.left before_inner
    refine .cons ⟨rfl, rfl, before_inner, _, inner, inner_at⟩ ?_
    simpa [Located, List.filterMap_cons, Op.callee?] using located
  | _, _, _, .inclusion h h', _, _, _ => by
    simp [Located, Node.routines, h.callees, h'.callees, Op.callee?]

theorem RestCode.located : ∀ {start rest ops}, RestCode options start rest ops →
    ∀ {first}, CodeAt full start ops → macrosBefore full start = first →
    Located options full (Node.routinesOfRest first rest) ops
  | _, _, _, .done, _, _, _ => .nil
  | _, _, _, .otherwise inner, _, code_at, before => inner.located code_at before
  | _, _, _, .elsif cond inner others, _, code_at, before =>
    located_branch cond.callees code_at before
      (fun h e => inner.located h e) (fun h e => others.located h e)

theorem BodyCode.located : ∀ {start body ops}, BodyCode options start body ops →
    ∀ {first}, CodeAt full start ops → macrosBefore full start = first →
    Located options full (Node.routinesOfList first body) ops
  | _, _, _, .nil, _, _, _ => .nil
  | _, _, _, .cons h h', _, code_at, before =>
    have front := h.located code_at.left before
    front.append (h'.located (code_at.right rfl) (front.macrosBefore_add code_at.left before rfl))

end

theorem Located.getElem? {routines : List Routine} {callees : List MacroDef}
    (h : List.Forall₂ (Routine.Located options full) routines callees) (n : Nat) :
    Option.Rel (Routine.Located options full) routines[n]? callees[n]? := by
  induction h generalizing n with
  | nil => exact .none
  | cons head _ ih =>
    cases n with
    | zero => exact .some head
    | succ n => exact ih n

/-- The numbers of macros are places in the macro table. -/
theorem Template.located_macros {options : CompileOptions} {t : Template} {ops : List SourceOp}
    (code : BodyCode options 0 t.body ops) (n : Nat) :
    Option.Rel (Routine.Located options (ops ++ [.finish])) t.routines[n]?
      (Program.ofOps t.name (ops ++ [.finish])).macros[n]? := by
  have located : Located options (ops ++ [.finish]) t.routines ops :=
    code.located (CodeAt.whole _).left rfl
  have same : (ops ++ [Op.finish]).filterMap Op.callee? = ops.filterMap Op.callee? := by
    simp [Op.callee?]
  rw [Program.macros_ofOps, same, List.getElem?_toArray]
  exact Located.getElem? located n

end TemplateEngine
