import TemplateEngine.Operator
import TemplateEngine.Text.Position
import TemplateEngine.Value.Basic

/-!
# Templates

The tree of a parsed template. An `IF` block is a condition, a body and the
alternatives that follow, so it has at least one branch; `UNLESS` is read as an
`IF` with a negated condition. Spans are kept where a later stage may have to
point at the source: at filters and at macro parameters.
-/

namespace TemplateEngine

inductive Literal where
  | undef
  | bool (b : Bool)
  | int (i : Int64)
  | float (x : Binary64)
  | str (s : String)
deriving DecidableEq, Inhabited

def Literal.toValue : Literal → Value
  | undef => .undef
  | bool b => .bool b
  | int i => .int i
  | float x => .float x
  | str s => .str s

inductive Expr where
  | literal (l : Literal)
  | list (items : List Expr)
  | var (name : String)
  | attr (object : Expr) (field : String)
  | index (collection key : Expr)
  | call (function : Expr) (args : List Expr)
  | filter (operand : Expr) (name : String) (span : Span)
  | unary (op : UnaryOp) (operand : Expr)
  | binary (op : BinaryOp) (left right : Expr)
  | logic (op : LogicOp) (left right : Expr)
deriving Inhabited

mutual

inductive Node where
  /-- Text outside of tags. -/
  | text (s : String)
  | print (e : Expr)
  | branch (test : Expr) (body : List Node) (rest : Alternatives)
  | foreach (var : String) (iterable : Expr) (body : List Node)
  | loop (test : Expr) (body : List Node)
  | assign (name : String) (value : Expr)
  | define (name : String) (params : List (String × Span)) (body : List Node)
  | inclusion (template : Expr) (args : List (String × Expr))

/-- What follows the first branch of an `IF` block. -/
inductive Alternatives where
  | done
  | otherwise (body : List Node)
  | elsif (test : Expr) (body : List Node) (rest : Alternatives)

end

structure Template where
  name : String
  body : List Node

end TemplateEngine
