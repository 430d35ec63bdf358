import TemplateEngine.Template.Piece

/-!
# Putting blocks together

The pieces of a template are read in order with a stack of the blocks that are
still open. A tag that opens a block pushes it, a tag that ends one pops it and
adds the finished node to the block around it.
-/

namespace TemplateEngine

/-- A condition with its body. -/
abbrev Branch := Expr × List Node

/-- What an open block will become. Finished branches are kept latest first. -/
inductive BlockHead where
  /-- An `IF` block in the body of a condition. -/
  | branch (past : List Branch) (test : Expr)
  /-- An `IF` block after its `ELSE`; `last` is the branch before it. -/
  | otherwise (past : List Branch) (last : Branch)
  | foreach (var : String) (iterable : Expr)
  | loop (test : Expr)
  | define (name : String) (params : List (String × Span))

def BlockHead.kind : BlockHead → BlockKind
  | branch _ _ | otherwise _ _ => .branch
  | foreach _ _ => .foreach
  | loop _ => .loop
  | define _ _ => .define

structure OpenBlock where
  head : BlockHead
  /-- The tag that opened the block. -/
  span : Span
  /-- The nodes of the current body, latest first. -/
  body : List Node

/-- An `IF` node from its branches, latest first, and what follows the last. -/
def joinBranches (last : Branch) : List Branch → Alternatives → Node
  | [], rest => .branch last.1 last.2 rest
  | previous :: past, rest => joinBranches previous past (.elsif last.1 last.2 rest)

namespace OpenBlock

def nodes (b : OpenBlock) : List Node := b.body.reverse

/-- The node of a block that ends here. -/
def close (b : OpenBlock) : Node :=
  match b.head with
  | .branch past test => joinBranches (test, b.nodes) past .done
  | .otherwise past last => joinBranches last past (.otherwise b.nodes)
  | .foreach var iterable => .foreach var iterable b.nodes
  | .loop test => .loop test b.nodes
  | .define name params => .define name params b.nodes

end OpenBlock

/-- The nodes outside of all blocks, latest first, and the open blocks,
innermost first. -/
structure Assembly where
  root : List Node
  opened : List OpenBlock

namespace Assembly

def empty : Assembly := ⟨[], []⟩

/-- Adds a node to the innermost body. -/
def add (a : Assembly) (node : Node) : Assembly :=
  match a.opened with
  | [] => { a with root := node :: a.root }
  | b :: rest => { a with opened := { b with body := node :: b.body } :: rest }

def push (a : Assembly) (span : Span) (head : BlockHead) : Assembly :=
  { a with opened := ⟨head, span, []⟩ :: a.opened }

def misplaced {α : Type} (span : Span) (cause : Misplaced) : Checked α :=
  .error (span, .misplaced cause)

def addElsif (a : Assembly) (span : Span) (test : Expr) : Checked Assembly :=
  match a.opened with
  | b :: rest =>
    match b.head with
    | .branch past previous =>
      let head := .branch ((previous, b.nodes) :: past) test
      .ok { a with opened := { b with head := head, body := [] } :: rest }
    | .otherwise _ _ => misplaced span .elsifAfterElse
    | _ => misplaced span .elsifWithoutIf
  | [] => misplaced span .elsifWithoutIf

def addElse (a : Assembly) (span : Span) : Checked Assembly :=
  match a.opened with
  | b :: rest =>
    match b.head with
    | .branch past previous =>
      let head := .otherwise past (previous, b.nodes)
      .ok { a with opened := { b with head := head, body := [] } :: rest }
    | .otherwise _ _ => misplaced span .duplicateElse
    | _ => misplaced span .elseWithoutIf
  | [] => misplaced span .elseWithoutIf

def addEnd (a : Assembly) (span : Span) : Checked Assembly :=
  match a.opened with
  | b :: rest => .ok (Assembly.add { a with opened := rest } b.close)
  | [] => misplaced span .endWithoutBlock

/-- The values of arguments, or the first fault in them. -/
def checkArgs : List (String × Checked Expr) → Checked (List (String × Expr))
  | [] => .ok []
  | (name, e) :: rest => do
    let e ← e
    let others ← checkArgs rest
    return (name, e) :: others

/-- Takes in a tag. The expressions of a tag are checked before its place. -/
def addTag (a : Assembly) (span : Span) : Tag → Checked Assembly
  | .print e => do return a.add (.print (← e))
  | .assign name e => do return a.add (.assign name (← e))
  | .inclusion template args => do
    let template ← template
    let args ← checkArgs args
    return a.add (.inclusion template args)
  | .ifTag test => do return a.push span (.branch [] (← test))
  | .unlessTag test => do return a.push span (.branch [] (.unary .not (← test)))
  | .elsifTag test => do a.addElsif span (← test)
  | .elseTag => a.addElse span
  | .foreachTag var iterable => do return a.push span (.foreach var (← iterable))
  | .whileTag test => do return a.push span (.loop (← test))
  | .macroTag name params => .ok (a.push span (.define name params))
  | .endTag => a.addEnd span

def addPiece (a : Assembly) (piece : Piece) : Checked Assembly :=
  match piece.kind with
  | .text s => .ok (a.add (.text s))
  | .comment => .ok a
  | .tag t => a.addTag piece.span t

def addPieces (a : Assembly) : List Piece → Checked Assembly
  | [] => .ok a
  | piece :: rest => do
    let a ← a.addPiece piece
    addPieces a rest

/-- The finished body; no block may still be open. -/
def finish (a : Assembly) : Checked (List Node) :=
  match a.opened with
  | [] => .ok a.root.reverse
  | b :: _ => .error (b.span, .unclosed b.head.kind)

end Assembly

/-- The body that the pieces make up. -/
def Piece.assemble (pieces : List Piece) : Checked (List Node) := do
  let a ← Assembly.empty.addPieces pieces
  a.finish

namespace Template

/-- Parses the text of a template; the name is used in messages only. -/
def parse (name source : String) : Except ParseError Template :=
  let body := do
    let pieces ← Piece.scan source
    Piece.assemble pieces
  match body with
  | .ok body => .ok ⟨name, body⟩
  | .error (span, fault) => .error ⟨name, source, span, fault⟩

end Template
end TemplateEngine
