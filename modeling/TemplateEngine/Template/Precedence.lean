/-!
# Operator precedence

A chain is a row of terms with infix operators between them; a term is an
operand with prefix operators before it and suffixes after it. Suffixes bind
closest. The other operators have strengths, and infix operators are left
associative. A chain is read from left to right with a stack of operators that
still wait for their right operand: an operator is closed as soon as the next
one on its right is too weak to belong to its operand. A prefix operator to the
right of a stronger infix operator therefore takes all that binds closer than
itself.
-/

namespace TemplateEngine.Precedence

/-- A tree of operands `α`, prefix operators `π`, suffixes `σ` and infix
operators `ω`. -/
inductive Tree (α π σ ω : Type) where
  | operand (a : α)
  | before (op : π) (t : Tree α π σ ω)
  | after (t : Tree α π σ ω) (s : σ)
  | between (op : ω) (left right : Tree α π σ ω)

structure Term (α π σ : Type) where
  operators : List π
  operand : α
  suffixes : List σ

structure Chain (α π σ ω : Type) where
  first : Term α π σ
  rest : List (ω × Term α π σ)

/-- An operator without its right operand. -/
inductive Pending (α π σ ω : Type) where
  | before (op : π)
  | between (op : ω) (left : Tree α π σ ω)

/-- How close the operators bind. -/
structure Strength (π ω : Type) where
  before : π → Nat
  between : ω → Nat

variable {α π σ ω : Type}

def Pending.close : Pending α π σ ω → Tree α π σ ω → Tree α π σ ω
  | before op, t => .before op t
  | between op left, t => .between op left t

/-- Whether an infix operator of a strength ends the operand of a waiting one.
An infix operator of equal strength does, so those associate to the left. -/
def Pending.endsAt (s : Strength π ω) (next : Nat) : Pending α π σ ω → Bool
  | before op => next < s.before op
  | between op _ => next ≤ s.between op

/-- Closes the waiting operators, innermost first, up to one that goes on. -/
def closeUntil (s : Strength π ω) (next : Nat) :
    List (Pending α π σ ω) → Tree α π σ ω → List (Pending α π σ ω) × Tree α π σ ω
  | [], t => ([], t)
  | p :: stack, t =>
    if p.endsAt s next then closeUntil s next stack (p.close t) else (p :: stack, t)

def closeAll : List (Pending α π σ ω) → Tree α π σ ω → Tree α π σ ω
  | [], t => t
  | p :: stack, t => closeAll stack (p.close t)

namespace Term

/-- The operand with its suffixes. -/
def core (t : Term α π σ) : Tree α π σ ω := t.suffixes.foldl .after (.operand t.operand)

/-- Its prefix operators wait, the last of them innermost. -/
def stack (t : Term α π σ) (below : List (Pending α π σ ω)) : List (Pending α π σ ω) :=
  t.operators.foldl (fun acc op => .before op :: acc) below

end Term

def grow (s : Strength π ω) (stack : List (Pending α π σ ω)) (t : Tree α π σ ω) :
    List (ω × Term α π σ) → Tree α π σ ω
  | [] => closeAll stack t
  | (op, term) :: rest =>
    let (stack, left) := closeUntil s (s.between op) stack t
    grow s (term.stack (.between op left :: stack)) term.core rest

/-- The tree of a chain. -/
def Chain.tree (s : Strength π ω) (c : Chain α π σ ω) : Tree α π σ ω :=
  grow s (c.first.stack []) c.first.core c.rest

end TemplateEngine.Precedence
