import TemplateEngine.Template.Block
import TemplateEngine.Value.Text

/-!
# Printing templates

A printer writes a template so that it can be read again: every expression stands in
parentheses, texts are quoted, and a comment stands between two texts, which would be
read as one without it. Identifiers and texts are written as they are, so not every
template can be printed. What is read is the same template up to the spans in it.
-/

namespace TemplateEngine
namespace Printer

def escape : List Char → List Char
  | [] => []
  | c :: rest =>
    if c = '"' ∨ c = '\\' then '\\' :: c :: escape rest else c :: escape rest

/-- Texts with commas between them. -/
def commas : List (List Char) → List Char
  | [] => []
  | text :: rest => text ++ rest.flatMap fun text => ',' :: ' ' :: text

def literal : Literal → List Char
  | .undef => "undef".toList
  | .bool true => "true".toList
  | .bool false => "false".toList
  | .int i => Nat.toDigits 10 i.toNatClampNeg
  | .float x => (Value.float x).display.toList
  | .str s => '"' :: escape s.toList ++ ['"']

def unarySign : UnaryOp → Char
  | .neg => '-'
  | .not => '!'

def logicSymbol : LogicOp → String
  | .and => "&&"
  | .or => "||"

/-- Two operands with an operator between them. -/
def infixed (symbol : String) (left right : List Char) : List Char :=
  left ++ ' ' :: symbol.toList ++ ' ' :: right

def parens (text : List Char) : List Char := '(' :: text ++ [')']

mutual

/-- An expression without the parentheses around it. -/
def expr : Expr → List Char
  | .literal l => literal l
  | .list items => '[' :: commas (exprs items) ++ [']']
  | .var name => name.toList
  | .attr object field => parens (expr object) ++ '.' :: field.toList
  | .index collection key => parens (expr collection) ++ '[' :: parens (expr key) ++ [']']
  | .call function args => parens (expr function) ++ '(' :: commas (exprs args) ++ [')']
  | .filter operand name _ => parens (expr operand) ++ '|' :: name.toList
  | .unary op operand => unarySign op :: parens (expr operand)
  | .binary op left right => infixed op.symbol (parens (expr left)) (parens (expr right))
  | .logic op left right => infixed (logicSymbol op) (parens (expr left)) (parens (expr right))

def exprs : List Expr → List (List Char)
  | [] => []
  | e :: rest => parens (expr e) :: exprs rest

end

def tag (words : List Char) : List Char := "[% ".toList ++ words ++ " %]".toList

def comment : List Char := "[%# %]".toList

def endTag : List Char := tag "END".toList

def arg (arg : String × Expr) : List Char :=
  arg.1.toList ++ " = ".toList ++ parens (expr arg.2)

/-- The arguments of an inclusion, if there are any. -/
def withArgs : List (String × Expr) → List Char
  | [] => []
  | args => " WITH ".toList ++ commas (args.map arg)

/-- What stands between a node and those after it. -/
def between : Node → List Node → List Char
  | .text _, .text _ :: _ => comment
  | _, _ => []

mutual

def node : Node → List Char
  | .text s => s.toList
  | .print e => tag (parens (expr e))
  | .branch test body rest =>
    tag ("IF ".toList ++ parens (expr test)) ++ nodes body ++ alternatives rest
  | .foreach var iterable body =>
    tag ("FOREACH ".toList ++ var.toList ++ " IN ".toList ++ parens (expr iterable))
      ++ nodes body ++ endTag
  | .loop test body => tag ("WHILE ".toList ++ parens (expr test)) ++ nodes body ++ endTag
  | .assign name value => tag ("SET ".toList ++ name.toList ++ " = ".toList ++ parens (expr value))
  | .define name params body =>
    tag ("MACRO ".toList ++ name.toList ++ parens (commas (params.map fun param => param.1.toList))
        ++ " BLOCK".toList)
      ++ nodes body ++ endTag
  | .inclusion template args =>
    tag ("INCLUDE ".toList ++ parens (expr template) ++ withArgs args)

def alternatives : Alternatives → List Char
  | .done => endTag
  | .otherwise body => tag "ELSE".toList ++ nodes body ++ endTag
  | .elsif test body rest =>
    tag ("ELSIF ".toList ++ parens (expr test)) ++ nodes body ++ alternatives rest

def nodes : List Node → List Char
  | [] => []
  | first :: rest => node first ++ between first rest ++ nodes rest

end

end Printer

def Template.print (t : Template) : String := String.ofList (Printer.nodes t.body)

/-- Letters, digits and underscores, of which the first is no digit; no keyword. -/
structure IsIdentifier (name : String) : Prop where
  first : ∃ c rest, name.toList = c :: rest ∧ (c.isAlpha ∨ c = '_')
  chars : ∀ c ∈ name.toList, c.isAlphanum ∨ c = '_'
  noKeyword : name ∉ Token.keywords

/-- One or more letters, digits and underscores. -/
structure IsFieldName (name : String) : Prop where
  nonempty : name ≠ ""
  chars : ∀ c ∈ name.toList, c.isAlphanum ∨ c = '_'

/-- The text can stand outside of tags. -/
structure IsPlainText (s : String) : Prop where
  nonempty : s ≠ ""
  noTag : ¬ ['[', '%'] <:+: s.toList

def Literal.Printable : Literal → Prop
  | .int i => 0 ≤ i
  | .float _ => False
  | _ => True

mutual

def Expr.Printable : Expr → Prop
  | .literal l => l.Printable
  | .list items => Expr.PrintableAll items
  | .var name => IsIdentifier name
  | .attr object field => object.Printable ∧ IsFieldName field
  | .index collection key => collection.Printable ∧ key.Printable
  | .call function args => function.Printable ∧ Expr.PrintableAll args
  | .filter operand name _ => operand.Printable ∧ IsIdentifier name
  | .unary _ operand => operand.Printable
  | .binary _ left right | .logic _ left right => left.Printable ∧ right.Printable

def Expr.PrintableAll : List Expr → Prop
  | [] => True
  | e :: rest => e.Printable ∧ Expr.PrintableAll rest

end

mutual

def Node.Printable : Node → Prop
  | .text s => IsPlainText s
  | .print e => e.Printable
  | .branch test body rest => test.Printable ∧ Node.PrintableAll body ∧ rest.Printable
  | .foreach var iterable body => IsIdentifier var ∧ iterable.Printable ∧ Node.PrintableAll body
  | .loop test body => test.Printable ∧ Node.PrintableAll body
  | .assign name value => IsIdentifier name ∧ value.Printable
  | .define name params body =>
    IsIdentifier name ∧ (∀ param ∈ params, IsIdentifier param.1) ∧ Node.PrintableAll body
  | .inclusion template args =>
    template.Printable ∧ ∀ arg ∈ args, IsIdentifier arg.1 ∧ arg.2.Printable

def Alternatives.Printable : Alternatives → Prop
  | .done => True
  | .otherwise body => Node.PrintableAll body
  | .elsif test body rest => test.Printable ∧ Node.PrintableAll body ∧ rest.Printable

def Node.PrintableAll : List Node → Prop
  | [] => True
  | node :: rest => node.Printable ∧ Node.PrintableAll rest

end

def Template.Printable (t : Template) : Prop := Node.PrintableAll t.body

mutual

/-- The expression with all spans taken away. -/
def Expr.unspanned : Expr → Expr
  | .literal l => .literal l
  | .list items => .list (Expr.unspannedAll items)
  | .var name => .var name
  | .attr object field => .attr object.unspanned field
  | .index collection key => .index collection.unspanned key.unspanned
  | .call function args => .call function.unspanned (Expr.unspannedAll args)
  | .filter operand name _ => .filter operand.unspanned name default
  | .unary op operand => .unary op operand.unspanned
  | .binary op left right => .binary op left.unspanned right.unspanned
  | .logic op left right => .logic op left.unspanned right.unspanned

def Expr.unspannedAll : List Expr → List Expr
  | [] => []
  | e :: rest => e.unspanned :: Expr.unspannedAll rest

end

mutual

/-- The node with all spans taken away. -/
def Node.unspanned : Node → Node
  | .text s => .text s
  | .print e => .print e.unspanned
  | .branch test body rest => .branch test.unspanned (Node.unspannedAll body) rest.unspanned
  | .foreach var iterable body => .foreach var iterable.unspanned (Node.unspannedAll body)
  | .loop test body => .loop test.unspanned (Node.unspannedAll body)
  | .assign name value => .assign name value.unspanned
  | .define name params body =>
    .define name (params.map fun param => (param.1, default)) (Node.unspannedAll body)
  | .inclusion template args =>
    .inclusion template.unspanned (args.map fun arg => (arg.1, arg.2.unspanned))

def Alternatives.unspanned : Alternatives → Alternatives
  | .done => .done
  | .otherwise body => .otherwise (Node.unspannedAll body)
  | .elsif test body rest =>
    .elsif test.unspanned (Node.unspannedAll body) rest.unspanned

def Node.unspannedAll : List Node → List Node
  | [] => []
  | node :: rest => node.unspanned :: Node.unspannedAll rest

end

/-- The template with all spans taken away. -/
def Template.unspanned (t : Template) : Template := { t with body := Node.unspannedAll t.body }

end TemplateEngine
