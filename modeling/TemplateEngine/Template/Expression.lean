import TemplateEngine.Template.Basic
import TemplateEngine.Template.ParseError
import TemplateEngine.Template.Precedence
import TemplateEngine.Template.Token

/-!
# Reading expressions

An expression is read as a chain of terms, whose tree the strengths of the
operators decide. That a number fits 64 bits is not a matter of the grammar:
reading yields an expression or the fault, which is reported only if the whole
text follows the grammar.
-/

namespace TemplateEngine

/-- A part of a tag, unless a number in it does not fit. -/
abbrev Checked (α : Type) := Except (Span × ParseFault) α

namespace Expression

open Reader

inductive Infix where
  | logic (op : LogicOp)
  | binary (op : BinaryOp)
deriving DecidableEq

inductive Suffix where
  | field (name : String)
  | index (key : Checked Expr)
  | call (args : Checked (List Expr))
  | filter (name : String) (span : Span)

/-- From the weakest to the closest: `or`, `and`, `not`, comparisons, `~`, sums,
products, the minus sign. -/
def strength : Precedence.Strength UnaryOp Infix where
  before
    | .not => 30
    | .neg => 80
  between
    | .logic .or => 10
    | .logic .and => 20
    | .binary .eq | .binary .ne | .binary .lt | .binary .le | .binary .gt | .binary .ge => 40
    | .binary .concat => 50
    | .binary .add | .binary .sub => 60
    | .binary .mul | .binary .div | .binary .mod => 70

abbrev Term := Precedence.Term (Checked Expr) UnaryOp Suffix

abbrev Chain := Precedence.Chain (Checked Expr) UnaryOp Suffix Infix

abbrev Tree := Precedence.Tree (Checked Expr) UnaryOp Suffix Infix

def Infix.combine : Infix → Expr → Expr → Expr
  | .logic op, left, right => .logic op left right
  | .binary op, left, right => .binary op left right

/-- The expression of a tree. Of several faults the one inside of a suffix comes
before one in front of it, else the left one first. -/
def ofTree : Tree → Checked Expr
  | .operand e => e
  | .before op t => do return .unary op (← ofTree t)
  | .after t (.field name) => do return .attr (← ofTree t) name
  | .after t (.index key) => do
    let key ← key
    return .index (← ofTree t) key
  | .after t (.call args) => do
    let args ← args
    return .call (← ofTree t) args
  | .after t (.filter name span) => do return .filter (← ofTree t) name span
  | .between op left right => do
    let left ← ofTree left
    let right ← ofTree right
    return op.combine left right

/-- The expression of a chain. -/
def build (c : Chain) : Checked Expr := ofTree (c.tree strength)

/-- The results of all, or the first fault. -/
def sequence {α : Type} : List (Checked α) → Checked (List α)
  | [] => .ok []
  | e :: rest => do
    let first ← e
    let others ← sequence rest
    return first :: others

def intLiteral : Reader Rule (Checked Expr) := do
  let (digits, span) ← spanned Token.int
  let n := decimalValue digits
  return if n < Nat.pow 2 63 then .ok (.literal (.int (Int64.ofNat n)))
    else .error (span, .invalidNumber (String.ofList digits))

/-- An operator written as a sign or as a word. -/
def signOrWord (r : Rule) (sign : String) (kw : Rule) (text : String) : Reader Rule Unit :=
  rule r (either (exact sign.toList) (Token.word kw text))

def sign (r : Rule) (text : String) : Reader Rule Unit := rule r (exact text.toList)

def unaryOp : Reader Rule UnaryOp :=
  either (do sign .negOp "-"; return .neg) (do
    rule .notOp (either
      (do exact ['!']; space; absent ['='])
      (Token.word .kwNot "not"))
    return .not)

def infixOp : Reader Rule Infix :=
  firstOf [
    (do signOrWord .orOp "||" .kwOr "or"; return .logic .or),
    (do signOrWord .andOp "&&" .kwAnd "and"; return .logic .and),
    (do sign .eqOp "=="; return .binary .eq),
    (do sign .neOp "!="; return .binary .ne),
    (do sign .leOp "<="; return .binary .le),
    (do sign .geOp ">="; return .binary .ge),
    (do sign .ltOp "<"; return .binary .lt),
    (do sign .gtOp ">"; return .binary .gt),
    (do sign .concatOp "~"; return .binary .concat),
    (do sign .addOp "+"; return .binary .add),
    (do sign .subOp "-"; return .binary .sub),
    (do sign .mulOp "*"; return .binary .mul),
    (do sign .divOp "/"; return .binary .div),
    -- The end of a tag is no operator.
    (do rule .moduloOp (do exact ['%']; space; absent [']']); return .binary .mod)]

section

variable (limit : Nat) (inner : Reader Rule (Checked Expr))

def suffix : Reader Rule Suffix :=
  firstOf [
    rule .fieldOp (do
      exact ['.']
      space
      return .field (← Token.fieldName)),
    rule .indexOp (do
      exact ['[']
      space
      let key ← inner
      space
      exact [']']
      return .index key),
    rule .callOp (do
      exact ['(']
      space
      let args ← listed limit inner
      space
      exact [')']
      return .call (sequence args)),
    do
      let (name, span) ← spanned (rule .filterOp (do
        exact ['|']
        space
        absent ['|']
        space
        Token.identifier))
      return .filter name span]

def listLiteral : Reader Rule (Checked Expr) :=
  rule .listLiteral (do
    exact ['[']
    space
    let items ← listed limit inner
    space
    exact [']']
    return (sequence items).map .list)

def grouped : Reader Rule (Checked Expr) := do
  exact ['(']
  space
  let e ← inner
  space
  exact [')']
  return e

def constantWord (r : Rule) (text : String) (l : Literal) : Reader Rule (Checked Expr) := do
  Token.word r text
  return .ok (.literal l)

def operand : Reader Rule (Checked Expr) :=
  firstOf [
    (do return .ok (.literal (.float (← Token.float)))),
    intLiteral,
    (do return .ok (.literal (.str (← Token.string)))),
    constantWord .trueLiteral "true" (.bool true),
    constantWord .falseLiteral "false" (.bool false),
    constantWord .undefLiteral "undef" .undef,
    listLiteral limit inner,
    (do return .ok (.var (← Token.identifier))),
    grouped inner]

def term : Reader Rule Term := do
  let operators ← many limit (do space; unaryOp)
  space
  let operand ← operand limit inner
  space
  let suffixes ← many limit (do space; suffix limit inner)
  return ⟨operators, operand, suffixes⟩

/-- An infix operator and the term after it. -/
def continued : Reader Rule (Infix × Term) := do
  space
  let op ← infixOp
  space
  let next ← term limit inner
  return (op, next)

/-- An expression up to the choice of its tree. -/
def chain : Reader Rule Chain := do
  let first ← term limit inner
  space
  let rest ← many limit (continued limit inner)
  return ⟨first, rest⟩

/-- An expression, given a reader of the expressions inside of it. -/
def body : Reader Rule (Checked Expr) :=
  rule .expression (do return build (← chain limit inner))

end

/-- Expressions nested at most `depth` deep, with at most `limit` repetitions of
a part. Every level is entered through a bracket, so the length of the text is
enough for both. -/
def reader (limit : Nat) : Nat → Reader Rule (Checked Expr)
  | 0 => failure
  | depth + 1 =>
    { read := fun c => (body limit (reader limit depth)).read c
      attempts := fun c t => (body limit (reader limit depth)).attempts c t }

end Expression
end TemplateEngine
