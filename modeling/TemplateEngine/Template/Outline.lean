import TemplateEngine.Program.Listing
import TemplateEngine.Template.Basic

/-!
# Outlines

The tree of a template written out for reading: each part on lines of its own,
indented by its depth, with a comma after it. Parts without content stay on the
line.
-/

namespace TemplateEngine

inductive Outline where
  | leaf (text : String)
  /-- Parts, each with what stands before it, between two brackets. -/
  | group (opening : String) (parts : List (String × Outline)) (closing : String)

namespace Outline

def tuple (name : String) (parts : List Outline) : Outline :=
  group (name ++ "(") (parts.map fun part => ("", part)) ")"

def record (name : String) (fields : List (String × Outline)) : Outline :=
  group (name ++ " \x7b") (fields.map fun field => (field.1 ++ ": ", field.2)) "\x7d"

def list (parts : List Outline) : Outline := group "[" (parts.map fun part => ("", part)) "]"

def text (s : String) : Outline := leaf (Text.quoted s)

def blanks (n : Nat) : String := String.ofList (List.replicate n ' ')

mutual

/-- The text of an outline whose first line is already indented. -/
def render (indent : Nat) : Outline → String
  | leaf text => text
  | group opening [] closing => opening ++ closing
  | group opening (part :: parts) closing =>
    opening ++ "\n" ++ String.join (renderParts (indent + 4) (part :: parts))
      ++ blanks indent ++ closing

def renderParts (indent : Nat) : List (String × Outline) → List String
  | [] => []
  | (label, part) :: rest =>
    (blanks indent ++ label ++ render indent part ++ ",\n") :: renderParts indent rest

end

end Outline

def Literal.outline : Literal → Outline
  | undef => .leaf "Undef"
  | bool b => .tuple "Bool" [.leaf (if b then "true" else "false")]
  | int i => .tuple "Int" [.leaf (toString i.toInt)]
  | float x => .tuple "Float" [.leaf (x.format Binary64.marked)]
  | str s => .tuple "Str" [.text s]

def Span.outline (s : Span) : Outline :=
  .tuple "Span" [.leaf (toString s.start ++ ".." ++ toString s.stop)]

def UnaryOp.label : UnaryOp → String
  | neg => "Neg"
  | not => "Not"

def LogicOp.label : LogicOp → String
  | and => "And"
  | or => "Or"

def BinaryOp.label : BinaryOp → String
  | add => "Add"
  | sub => "Sub"
  | mul => "Mul"
  | div => "Div"
  | mod => "Mod"
  | concat => "Concat"
  | eq => "Eq"
  | ne => "Ne"
  | lt => "Lt"
  | le => "Le"
  | gt => "Gt"
  | ge => "Ge"

namespace Expr

mutual

def outline : Expr → Outline
  | literal l => .tuple "Literal" [l.outline]
  | list items => .tuple "List" [.list (outlines items)]
  | var name => .tuple "Var" [.text name]
  | attr object field => .record "Attr" [("object", object.outline), ("field", .text field)]
  | index collection key =>
    .record "Index" [("collection", collection.outline), ("index", key.outline)]
  | call function args =>
    .record "Call" [("function", function.outline), ("args", .list (outlines args))]
  | filter operand name span =>
    .record "Filter" [("expr", operand.outline), ("name", .text name), ("span", span.outline)]
  | unary op operand => .record "Unary" [("op", .leaf op.label), ("expr", operand.outline)]
  | binary op left right =>
    .record "Binary" [("op", .leaf op.label), ("left", left.outline), ("right", right.outline)]
  | logic op left right =>
    .record "Bool" [("op", .leaf op.label), ("left", left.outline), ("right", right.outline)]

def outlines : List Expr → List Outline
  | [] => []
  | e :: rest => e.outline :: outlines rest

end

/-- An argument of an inclusion. -/
def argOutline (arg : String × Expr) : Outline := .tuple "" [.text arg.1, arg.2.outline]

end Expr

namespace Node

def paramOutline (param : String × Span) : Outline := .tuple "" [.text param.1, param.2.outline]

/-- An `IF` block from the outlines of its branches. -/
def branchesOutline (branches : List Outline) (last : Outline) : Outline :=
  .record "If" [("branches", .list branches), ("otherwise", last)]

mutual

def outline : Node → Outline
  | text s => .tuple "Text" [.text s]
  | print e => .tuple "Print" [e.outline]
  | branch test body rest =>
    let (branches, last) := restOutline rest
    branchesOutline (.tuple "" [test.outline, .list (outlines body)] :: branches) last
  | foreach var iterable body =>
    .record "Foreach" [("var", .text var), ("iterable", iterable.outline),
      ("body", .list (outlines body))]
  | loop test body => .record "While" [("cond", test.outline), ("body", .list (outlines body))]
  | assign name value => .record "Set" [("name", .text name), ("value", value.outline)]
  | define name params body =>
    .record "Macro" [("name", .text name), ("params", .list (params.map paramOutline)),
      ("body", .list (outlines body))]
  | inclusion template args =>
    .record "Include" [("template", template.outline), ("args", .list (args.map Expr.argOutline))]

/-- The branches after the first one, and what follows them. -/
def restOutline : Alternatives → List Outline × Outline
  | .done => ([], .leaf "None")
  | .otherwise body => ([], .tuple "Some" [.list (outlines body)])
  | .elsif test body rest =>
    let (branches, last) := restOutline rest
    (.tuple "" [test.outline, .list (outlines body)] :: branches, last)

def outlines : List Node → List Outline
  | [] => []
  | node :: rest => node.outline :: outlines rest

end

end Node

/-- The tree of a template as a text. -/
def Template.outline (t : Template) : String :=
  (Outline.record "Template" [("name", .text t.name),
    ("body", .list (Node.outlines t.body))]).render 0

end TemplateEngine
