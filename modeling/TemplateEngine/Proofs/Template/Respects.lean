import TemplateEngine.Template.Precedence
import Mathlib.Data.List.Basic

/-!
# Trees that respect the strengths of operators

What may stand in an operand is a matter of its edges. The operators on the edge that
faces an infix operator have to bind closer than it does, on the left at least as close.
A chain has one such tree, and reading it with a stack of waiting operators finds it: read
off a tree that respects the strengths, the stack is the open right edge of the tree.
-/

namespace TemplateEngine.Precedence

variable {α π σ ω : Type}

/-- A chain as it is written, from left to right. -/
inductive Lexeme (α π σ ω : Type) where
  | operand (a : α)
  | before (op : π)
  | after (x : σ)
  | between (op : ω)

/-- No prefix operator is as strong as an infix operator. -/
def Strength.Distinct (s : Strength π ω) : Prop := ∀ op op', s.before op ≠ s.between op'

namespace Tree

/-- The operands and operators of a tree in order. -/
def lexemes : Tree α π σ ω → List (Lexeme α π σ ω)
  | operand a => [.operand a]
  | before op t => .before op :: t.lexemes
  | after t x => t.lexemes ++ [.after x]
  | between op left right => left.lexemes ++ .between op :: right.lexemes

/-- An operand with suffixes only. -/
def IsCore : Tree α π σ ω → Prop
  | operand _ | after _ _ => True
  | before _ _ | between _ _ _ => False

/-- The strengths of the infix operators on the left edge, outermost first. -/
def leftEdge (s : Strength π ω) : Tree α π σ ω → List Nat
  | operand _ | before _ _ => []
  | after t _ => t.leftEdge s
  | between op left _ => s.between op :: left.leftEdge s

/-- The strengths of the infix and prefix operators on the right edge, outermost first. -/
def rightEdge (s : Strength π ω) : Tree α π σ ω → List Nat
  | operand _ | after _ _ => []
  | before op t => s.before op :: t.rightEdge s
  | between op _ right => s.between op :: right.rightEdge s

/-- The edges that face an operator bind closer than it, infix operators on the left of
one at least as close; and suffixes follow operands or other suffixes. -/
def Respects (s : Strength π ω) : Tree α π σ ω → Prop
  | operand _ => True
  | before op t => t.Respects s ∧ ∀ n ∈ t.leftEdge s, s.before op < n
  | after t _ => t.Respects s ∧ t.IsCore
  | between op left right => left.Respects s ∧ right.Respects s ∧
      (∀ n ∈ left.rightEdge s, s.between op ≤ n) ∧ ∀ n ∈ right.leftEdge s, s.between op < n

variable {s : Strength π ω} {t : Tree α π σ ω}

theorem rightEdge_of_isCore (core : t.IsCore) : t.rightEdge s = [] := by
  cases t with
  | operand | after => rfl
  | before | between => cases core

theorem leftEdge_of_isCore (core : t.IsCore) (h : t.Respects s) : t.leftEdge s = [] := by
  induction t with
  | operand => rfl
  | after t x ih => exact ih h.2 h.1
  | before | between => cases core

end Tree

namespace Term

variable {t : Term α π σ}

def lexemes (t : Term α π σ) : List (Lexeme α π σ ω) :=
  t.operators.map .before ++ .operand t.operand :: t.suffixes.map .after

/-- Suffixes that follow a tree. -/
theorem lexemes_suffixes (suffixes : List σ) (t : Tree α π σ ω) :
    (suffixes.foldl .after t).lexemes = t.lexemes ++ suffixes.map .after := by
  induction suffixes generalizing t with
  | nil => simp
  | cons x rest ih => simp [ih, Tree.lexemes]

theorem lexemes_core (t : Term α π σ) :
    (t.core : Tree α π σ ω).lexemes = .operand t.operand :: t.suffixes.map .after := by
  rw [core, lexemes_suffixes, Tree.lexemes]
  rfl

theorem respects_suffixes {s : Strength π ω} (suffixes : List σ) {t : Tree α π σ ω}
    (h : t.Respects s) (core : t.IsCore) :
    (suffixes.foldl .after t).Respects s ∧ (suffixes.foldl .after t).IsCore := by
  induction suffixes generalizing t with
  | nil => exact ⟨h, core⟩
  | cons x rest ih => exact ih ⟨h, core⟩ trivial

theorem respects_core (s : Strength π ω) (t : Term α π σ) :
    (t.core : Tree α π σ ω).Respects s ∧ (t.core : Tree α π σ ω).IsCore :=
  respects_suffixes t.suffixes (by trivial) (by trivial)

end Term

def Chain.lexemes (c : Chain α π σ ω) : List (Lexeme α π σ ω) :=
  c.first.lexemes ++ c.rest.flatMap fun next => .between next.1 :: next.2.lexemes

namespace Pending

/-- The waiting operator with its left operand. -/
def lexemes : Pending α π σ ω → List (Lexeme α π σ ω)
  | before op => [.before op]
  | between op left => left.lexemes ++ [.between op]

def strength (s : Strength π ω) : Pending α π σ ω → Nat
  | before op => s.before op
  | between op _ => s.between op

/-- The left edge of what the operator is closed to. -/
def leftEdge (s : Strength π ω) : Pending α π σ ω → List Nat
  | before _ => []
  | between op left => s.between op :: left.leftEdge s

/-- The left operand of an infix operator respects the strengths and is close enough. -/
def Respects (s : Strength π ω) : Pending α π σ ω → Prop
  | before _ => True
  | between op left => left.Respects s ∧ ∀ n ∈ left.rightEdge s, s.between op ≤ n

variable {s : Strength π ω} {n : Nat}

theorem lexemes_close (p : Pending α π σ ω) (t : Tree α π σ ω) :
    (p.close t).lexemes = p.lexemes ++ t.lexemes := by
  cases p <;> simp [close, lexemes, Tree.lexemes]

theorem leftEdge_close (p : Pending α π σ ω) (t : Tree α π σ ω) :
    (p.close t).leftEdge s = p.leftEdge s := by
  cases p <;> rfl

theorem rightEdge_close (p : Pending α π σ ω) (t : Tree α π σ ω) :
    (p.close t).rightEdge s = p.strength s :: t.rightEdge s := by
  cases p <;> rfl

theorem respects_close {p : Pending α π σ ω} {t : Tree α π σ ω} (h : p.Respects s)
    (respects : t.Respects s) (closer : ∀ n ∈ t.leftEdge s, p.strength s < n) :
    (p.close t).Respects s := by
  cases p with
  | before op => exact ⟨respects, closer⟩
  | between op left => exact ⟨h.1, respects, h.2, closer⟩

theorem le_of_endsAt {p : Pending α π σ ω} (ends : p.endsAt s n = true) : n ≤ p.strength s := by
  cases p with
  | before op => exact Nat.le_of_lt (by simpa [endsAt, strength] using ends)
  | between op left => simpa [endsAt, strength] using ends

theorem endsAt_iff (distinct : s.Distinct) {p : Pending α π σ ω} {op : ω} :
    p.endsAt s (s.between op) = true ↔ s.between op ≤ p.strength s := by
  cases p with
  | before op' =>
    have other := distinct op' op
    simp only [endsAt, strength, decide_eq_true_eq]
    omega
  | between op' left => simp [endsAt, strength]

end Pending

/-- The operators of a stack, innermost first, as they are written. -/
def stackLexemes (stack : List (Pending α π σ ω)) : List (Lexeme α π σ ω) :=
  stack.reverse.flatMap Pending.lexemes

/-- The left edge is closer than the innermost waiting operator. -/
def Fits (s : Strength π ω) (edge : List Nat) : List (Pending α π σ ω) → Prop
  | [] => True
  | p :: _ => ∀ n ∈ edge, p.strength s < n

/-- A stack that can be closed to a tree that respects the strengths. -/
def Stacked (s : Strength π ω) : List (Pending α π σ ω) → Prop
  | [] => True
  | p :: stack => p.Respects s ∧ Fits s (p.leftEdge s) stack ∧ Stacked s stack

/-- The operators of a stack wait for this tree or a larger one. -/
structure Stands (s : Strength π ω) (stack : List (Pending α π σ ω)) (t : Tree α π σ ω) : Prop where
  stacked : Stacked s stack
  tree : t.Respects s
  fits : Fits s (t.leftEdge s) stack

variable {s : Strength π ω} {stack : List (Pending α π σ ω)} {p : Pending α π σ ω}
  {t : Tree α π σ ω} {op : ω}

@[simp] theorem stackLexemes_cons (p : Pending α π σ ω) (stack : List (Pending α π σ ω)) :
    stackLexemes (p :: stack) = stackLexemes stack ++ p.lexemes := by
  simp [stackLexemes]

theorem Stands.close (h : Stands s (p :: stack) t) : Stands s stack (p.close t) := by
  obtain ⟨⟨respects, fits, stacked⟩, tree, closer⟩ := h
  refine ⟨stacked, p.respects_close respects tree closer, ?_⟩
  rwa [p.leftEdge_close]

theorem Stands.closeAll (h : Stands s stack t) : (closeAll stack t).Respects s := by
  induction stack generalizing t with
  | nil => exact h.tree
  | cons p stack ih => exact ih h.close

theorem lexemes_closeAll (stack : List (Pending α π σ ω)) (t : Tree α π σ ω) :
    (closeAll stack t).lexemes = stackLexemes stack ++ t.lexemes := by
  induction stack generalizing t with
  | nil => rfl
  | cons p stack ih => simp [closeAll, ih, p.lexemes_close]

theorem lexemes_closeUntil (s : Strength π ω) (n : Nat) (stack : List (Pending α π σ ω))
    (t : Tree α π σ ω) :
    stackLexemes (closeUntil s n stack t).1 ++ (closeUntil s n stack t).2.lexemes =
      stackLexemes stack ++ t.lexemes := by
  induction stack generalizing t with
  | nil => rfl
  | cons p stack ih =>
    rw [closeUntil]
    split
    · simp [ih, p.lexemes_close]
    · rfl

/-- An infix operator that closes all that it ends may wait with the result on its left. -/
theorem Stands.closeUntil (distinct : s.Distinct) (h : Stands s stack t)
    (closer : ∀ n ∈ t.rightEdge s, s.between op ≤ n) :
    Stacked s (.between op (closeUntil s (s.between op) stack t).2 ::
      (closeUntil s (s.between op) stack t).1) := by
  induction stack generalizing t with
  | nil => exact ⟨⟨h.tree, closer⟩, trivial, trivial⟩
  | cons p stack ih =>
    rw [Precedence.closeUntil]
    split
    case isTrue ends =>
      apply ih h.close
      rw [p.rightEdge_close]
      exact List.forall_mem_cons.mpr ⟨p.le_of_endsAt ends, closer⟩
    case isFalse goes =>
      have weaker : p.strength s < s.between op := by
        rw [p.endsAt_iff distinct] at goes
        omega
      exact ⟨⟨h.tree, closer⟩, List.forall_mem_cons.mpr ⟨weaker, h.fits⟩, h.stacked⟩

theorem stacked_stack (t : Term α π σ) (h : Stacked s stack) : Stacked s (t.stack stack) := by
  unfold Term.stack
  induction t.operators generalizing stack with
  | nil => exact h
  | cons op rest ih =>
    apply ih
    refine ⟨trivial, ?_, h⟩
    cases stack with
    | nil => trivial
    | cons => exact nofun

theorem lexemes_stack (t : Term α π σ) (stack : List (Pending α π σ ω)) :
    stackLexemes (t.stack stack) = stackLexemes stack ++ t.operators.map .before := by
  unfold Term.stack
  induction t.operators generalizing stack with
  | nil => simp
  | cons op rest ih => rw [List.foldl_cons, ih, stackLexemes_cons, Pending.lexemes, List.map_cons,
      List.append_assoc, List.singleton_append]

theorem stands_term (t : Term α π σ) (h : Stacked s stack) : Stands s (t.stack stack) t.core := by
  obtain ⟨respects, core⟩ := t.respects_core s
  refine ⟨stacked_stack t h, respects, ?_⟩
  rw [Tree.leftEdge_of_isCore core respects]
  cases t.stack stack with
  | nil => trivial
  | cons => exact nofun

theorem respects_grow (distinct : s.Distinct) (h : Stands s stack t) (core : t.IsCore)
    (rest : List (ω × Term α π σ)) : (grow s stack t rest).Respects s := by
  induction rest generalizing stack t with
  | nil => exact h.closeAll
  | cons next rest ih =>
    have closer : ∀ n ∈ t.rightEdge s, s.between next.1 ≤ n := by
      rw [Tree.rightEdge_of_isCore core]
      exact nofun
    exact ih (stands_term next.2 (h.closeUntil distinct closer)) (next.2.respects_core s).2

theorem lexemes_grow (s : Strength π ω) (stack : List (Pending α π σ ω)) (t : Tree α π σ ω)
    (rest : List (ω × Term α π σ)) :
    (grow s stack t rest).lexemes = stackLexemes stack ++ t.lexemes ++
      rest.flatMap fun next => .between next.1 :: next.2.lexemes := by
  induction rest generalizing stack t with
  | nil => simp [grow, lexemes_closeAll]
  | cons next rest ih =>
    have closed := lexemes_closeUntil s (s.between next.1) stack t
    rw [grow]
    simp only
    rw [ih, lexemes_stack, stackLexemes_cons, Pending.lexemes, ← closed, next.2.lexemes_core]
    simp [Term.lexemes]

theorem Chain.respects_tree (distinct : s.Distinct) (c : Chain α π σ ω) :
    (c.tree s).Respects s := by
  have none : Stacked s ([] : List (Pending α π σ ω)) := trivial
  exact respects_grow distinct (stands_term c.first none) (c.first.respects_core s).2 c.rest

theorem Chain.lexemes_tree (s : Strength π ω) (c : Chain α π σ ω) :
    (c.tree s).lexemes = c.lexemes := by
  rw [tree, lexemes_grow, lexemes_stack, c.first.lexemes_core]
  simp [stackLexemes, Chain.lexemes, Term.lexemes]

/-- How far a chain is read. -/
inductive Reading (α π σ ω : Type) where
  /-- Before an operand. -/
  | wanting (stack : List (Pending α π σ ω))
  /-- Behind an operand, which may get suffixes. -/
  | having (stack : List (Pending α π σ ω)) (t : Tree α π σ ω)

/-- What the next lexeme leads to, if it may stand there. -/
def Reading.next (s : Strength π ω) : Reading α π σ ω → Lexeme α π σ ω → Option (Reading α π σ ω)
  | .wanting stack, .before op => some (.wanting (.before op :: stack))
  | .wanting stack, .operand a => some (.having stack (.operand a))
  | .having stack t, .after x => some (.having stack (.after t x))
  | .having stack t, .between op =>
    let (stack, left) := closeUntil s (s.between op) stack t
    some (.wanting (.between op left :: stack))
  | _, _ => none

def Reading.read (s : Strength π ω) (r : Reading α π σ ω) (lexemes : List (Lexeme α π σ ω)) :
    Option (Reading α π σ ω) :=
  lexemes.foldlM (Reading.next s) r

/-- What the operators that wait would close to at the end. -/
def Reading.tree? : Reading α π σ ω → Option (Tree α π σ ω)
  | .wanting _ => none
  | .having stack t => some (closeAll stack t)

namespace Tree

/-- The operators of the right edge, innermost first. -/
def openEdge : Tree α π σ ω → List (Pending α π σ ω)
  | operand _ | after _ _ => []
  | before op t => t.openEdge ++ [.before op]
  | between op left right => right.openEdge ++ [.between op left]

/-- What stands at the end of the right edge. -/
def lowest : Tree α π σ ω → Tree α π σ ω
  | operand a => operand a
  | after t x => after t x
  | before _ t => t.lowest
  | between _ _ right => right.lowest

theorem openEdge_of_isCore {t : Tree α π σ ω} (core : t.IsCore) : t.openEdge = [] ∧ t.lowest = t := by
  cases t with
  | operand | after => exact ⟨rfl, rfl⟩
  | before | between => cases core

end Tree

namespace Reading

theorem closeAll_openEdge (t : Tree α π σ ω) (stack : List (Pending α π σ ω)) :
    closeAll (t.openEdge ++ stack) t.lowest = closeAll stack t := by
  induction t generalizing stack with
  | operand | after => rfl
  | before op t ih => simp [Tree.openEdge, Tree.lowest, ih, closeAll, Pending.close]
  | between op left right _ ih => simp [Tree.openEdge, Tree.lowest, ih, closeAll, Pending.close]

/-- An infix operator closes an edge that is closer. -/
theorem closeUntil_openEdge (distinct : s.Distinct) {t : Tree α π σ ω}
    (closer : ∀ n ∈ t.rightEdge s, s.between op ≤ n) (stack : List (Pending α π σ ω)) :
    closeUntil s (s.between op) (t.openEdge ++ stack) t.lowest =
      closeUntil s (s.between op) stack t := by
  induction t generalizing stack with
  | operand | after => rfl
  | before op' t ih =>
    obtain ⟨here, inside⟩ := List.forall_mem_cons.mp closer
    have ends : (Pending.before op' : Pending α π σ ω).endsAt s (s.between op) = true :=
      (Pending.endsAt_iff distinct).mpr here
    rw [Tree.openEdge, Tree.lowest, List.append_assoc, ih inside, List.singleton_append, closeUntil,
      if_pos ends]
    rfl
  | between op' left right _ ih =>
    obtain ⟨here, inside⟩ := List.forall_mem_cons.mp closer
    have ends : (Pending.between op' left).endsAt s (s.between op) = true :=
      (Pending.endsAt_iff distinct).mpr here
    rw [Tree.openEdge, Tree.lowest, List.append_assoc, ih inside, List.singleton_append, closeUntil,
      if_pos ends]
    rfl

theorem closeUntil_fits (distinct : s.Distinct) {edge : List Nat}
    (fits : Fits s (s.between op :: edge) stack) (t : Tree α π σ ω) :
    closeUntil s (s.between op) stack t = (stack, t) := by
  cases stack with
  | nil => rfl
  | cons p stack =>
    have closer : p.strength s < s.between op := fits _ List.mem_cons_self
    have goes : ¬ p.endsAt s (s.between op) = true := by
      rw [p.endsAt_iff distinct]
      omega
    rw [closeUntil, if_neg goes]

/-- Behind a tree that respects the strengths the operators of its right edge wait. -/
theorem read_lexemes (distinct : s.Distinct) (h : t.Respects s) (fits : Fits s (t.leftEdge s) stack)
    (after : List (Lexeme α π σ ω)) :
    (wanting stack).read s (t.lexemes ++ after) =
      (having (t.openEdge ++ stack) t.lowest).read s after := by
  induction t generalizing stack after with
  | operand a => rfl
  | before op t ih =>
    obtain ⟨respects, closer⟩ := h
    have inside : Fits s (t.leftEdge s) (.before op :: stack) := closer
    rw [Tree.openEdge, List.append_assoc]
    exact ih respects inside after
  | after t x ih =>
    obtain ⟨respects, core⟩ := h
    obtain ⟨edge, lowest⟩ := Tree.openEdge_of_isCore core
    rw [Tree.lexemes, List.append_assoc, ih respects fits, edge, lowest]
    rfl
  | between op left right ihl ihr =>
    obtain ⟨respectsl, respectsr, closerl, closerr⟩ := h
    have within : Fits s (left.leftEdge s) stack := by
      cases stack with
      | nil => trivial
      | cons p stack => exact fun n member => fits n (List.mem_cons_of_mem _ member)
    rw [Tree.lexemes, List.append_assoc, ihl respectsl within, List.cons_append]
    have closed := (closeUntil_openEdge distinct closerl stack).trans
      (closeUntil_fits distinct fits left)
    have next : (having (left.openEdge ++ stack) left.lowest).next s (.between op) =
        some (.wanting (.between op left :: stack)) := by
      rw [Reading.next, closed]
    rw [read, List.foldlM_cons, next]
    have inside : Fits s (right.leftEdge s) (.between op left :: stack) := closerr
    rw [Tree.openEdge, List.append_assoc]
    exact ihr respectsr inside after

/-- A tree that respects the strengths is what its lexemes are read as. -/
theorem tree?_of_respects (distinct : s.Distinct) (h : t.Respects s) :
    ((wanting []).read s t.lexemes).bind tree? = some t := by
  have fits : Fits s (t.leftEdge s) ([] : List (Pending α π σ ω)) := trivial
  have whole := read_lexemes distinct h fits []
  rw [List.append_nil] at whole
  rw [whole, List.append_nil]
  have closed := closeAll_openEdge t []
  rw [List.append_nil] at closed
  exact congrArg some closed

end Reading

/-- Trees that respect the strengths are the same if they are written the same way. -/
theorem Tree.eq_of_lexemes (distinct : s.Distinct) {t t' : Tree α π σ ω} (h : t.Respects s)
    (h' : t'.Respects s) (same : t.lexemes = t'.lexemes) : t = t' := by
  have read := Reading.tree?_of_respects distinct h
  rw [same, Reading.tree?_of_respects distinct h'] at read
  exact (Option.some.inj read).symm

end TemplateEngine.Precedence
