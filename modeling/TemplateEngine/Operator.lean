/-!
# Operators of the template language

The binary operators are instructions of a program; `and` and `or` decide by
their left operand and are compiled to jumps, so they are kept apart.
-/

namespace TemplateEngine

inductive BinaryOp where
  | add
  | sub
  | mul
  | div
  | mod
  | concat
  | eq
  | ne
  | lt
  | le
  | gt
  | ge
deriving DecidableEq, Repr

def BinaryOp.symbol : BinaryOp → String
  | .add => "+"
  | .sub => "-"
  | .mul => "*"
  | .div => "/"
  | .mod => "%"
  | .concat => "~"
  | .eq => "=="
  | .ne => "!="
  | .lt => "<"
  | .le => "<="
  | .gt => ">"
  | .ge => ">="

/-- In the order of the wire format. -/
def BinaryOp.all : List BinaryOp :=
  [.add, .sub, .mul, .div, .mod, .concat, .eq, .ne, .lt, .le, .gt, .ge]

theorem BinaryOp.mem_all (op : BinaryOp) : op ∈ all := by
  cases op <;> decide

inductive UnaryOp where
  | neg
  | not
deriving DecidableEq, Repr

inductive LogicOp where
  | and
  | or
deriving DecidableEq, Repr

end TemplateEngine
