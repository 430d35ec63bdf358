import TemplateEngine.Template.Expression

/-!
# Pieces of a template

A template is cut into pieces: stretches of text, comments and tags. Blocks are
not yet put together, so that a tag in the wrong place can be reported as such.
-/

namespace TemplateEngine

inductive Tag where
  | print (e : Checked Expr)
  | assign (name : String) (value : Checked Expr)
  | inclusion (template : Checked Expr) (args : List (String × Checked Expr))
  | ifTag (test : Checked Expr)
  | unlessTag (test : Checked Expr)
  | elsifTag (test : Checked Expr)
  | elseTag
  | foreachTag (var : String) (iterable : Checked Expr)
  | whileTag (test : Checked Expr)
  | macroTag (name : String) (params : List (String × Span))
  | endTag

inductive PieceKind where
  | text (s : String)
  | comment
  | tag (t : Tag)

structure Piece where
  kind : PieceKind
  span : Span

namespace Piece

open Reader

/-- The characters up to a mark. -/
def before (mark : List Char) : List Char → List Char
  | [] => []
  | c :: rest => if mark.isPrefixOf (c :: rest) then [] else c :: before mark rest

/-- Reads up to a mark or to the end. -/
def takeBefore (mark : List Char) (c : Cursor) : List Char × Cursor :=
  let taken := before mark c.rest
  (taken, ⟨c.rest.drop taken.length, c.offset + utf8Length taken⟩)

def text : Reader Rule PieceKind :=
  .token .text fun c =>
    match takeBefore ['[', '%'] c with
    | ([], _) => none
    | (taken, d) => some (.text (String.ofList taken), d)

def comment : Reader Rule PieceKind :=
  .token .comment fun c =>
    match c.strip? ['[', '%', '#'] with
    | none => none
    | some c => ((takeBefore ['%', ']'] c).2.strip? ['%', ']']).map fun d => (.comment, d)

section

variable (limit : Nat)

def expression : Reader Rule (Checked Expr) := Expression.reader limit limit

def testTag (r kw : Rule) (text : String) (make : Checked Expr → Tag) : Reader Rule Tag :=
  rule r (do
    Token.word kw text
    space
    return make (← expression limit))

def foreachTag : Reader Rule Tag :=
  rule .foreachTag (do
    either (Token.word .kwForeach "FOREACH") (Token.word .kwFor "FOR")
    space
    let var ← Token.identifier
    space
    Token.word .kwIn "IN"
    space
    return .foreachTag var (← expression limit))

def setTag : Reader Rule Tag :=
  rule .setTag (do
    Token.word .kwSet "SET"
    space
    let name ← Token.identifier
    space
    exact ['=']
    space
    return .assign name (← expression limit))

def macroParams : Reader Rule (List (String × Span)) :=
  rule .macroParams (do
    exact ['(']
    space
    let params ← listed limit (spanned Token.identifier)
    space
    exact [')']
    return params)

def macroTag : Reader Rule Tag :=
  rule .macroTag (do
    Token.word .kwMacro "MACRO"
    space
    let name ← Token.identifier
    space
    let params ← optional (macroParams limit)
    space
    Token.word .kwBlock "BLOCK"
    return .macroTag name (params.getD []))

def includeArg : Reader Rule (String × Checked Expr) :=
  rule .includeArg (do
    let name ← Token.identifier
    space
    exact ['=']
    space
    return (name, ← expression limit))

def includeTag : Reader Rule Tag :=
  rule .includeTag (do
    Token.word .kwInclude "INCLUDE"
    space
    let template ← expression limit
    space
    let args ← optional (do
      Token.word .kwWith "WITH"
      space
      separated limit (includeArg limit))
    return .inclusion template (args.getD []))

def directive : Reader Rule Tag :=
  firstOf [
    testTag limit .ifTag .kwIf "IF" .ifTag,
    testTag limit .elsifTag .kwElsif "ELSIF" .elsifTag,
    rule .elseTag (do Token.word .kwElse "ELSE"; return .elseTag),
    testTag limit .unlessTag .kwUnless "UNLESS" .unlessTag,
    rule .endTag (do Token.word .kwEnd "END"; return .endTag),
    foreachTag limit,
    testTag limit .whileTag .kwWhile "WHILE" .whileTag,
    setTag limit,
    macroTag limit,
    includeTag limit,
    rule .printTag (do return .print (← expression limit))]

def tag : Reader Rule PieceKind :=
  rule .tag (do
    exact ['[', '%']
    space
    let t ← directive limit
    space
    exact ['%', ']']
    return .tag t)

/-- The pieces of a whole text. -/
def reader : Reader Rule (List Piece) := do
  let pieces ← many limit do
    let (kind, span) ← spanned (firstOf [text, comment, tag limit])
    return ⟨kind, span⟩
  Reader.token .endOfInput fun c => if c.rest.isEmpty then some ((), c) else none
  return pieces

end

/-- Cuts a text into pieces, or says where it stops following the grammar. -/
def scan (source : String) : Checked (List Piece) :=
  let start := Cursor.ofString source
  let reader := reader (start.rest.length + 1)
  match reader.read start with
  | some (pieces, _) => .ok pieces
  | none =>
    let failed := reader.attempts start .none
    .error (⟨failed.place, failed.place⟩,
      .unexpected failed.rules (dropBytes failed.place start.rest))

end Piece
end TemplateEngine
