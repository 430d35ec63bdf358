import TemplateEngine.Template.Rule
import TemplateEngine.Text.Blank
import TemplateEngine.Text.Position

/-!
# Syntax errors

What can be wrong with the text of a template: a place where no rule of the
grammar goes on, a tag without a block to belong to, a block without an end, a
number that does not fit.
-/

namespace TemplateEngine

inductive BlockKind where
  | branch
  | foreach
  | loop
  | define
deriving DecidableEq

def BlockKind.keyword : BlockKind → String
  | branch => "IF"
  | foreach => "FOREACH"
  | loop => "WHILE"
  | define => "MACRO"

/-- A tag that continues or ends a block, where there is none for it. -/
inductive Misplaced where
  | elsifAfterElse
  | elsifWithoutIf
  | duplicateElse
  | elseWithoutIf
  | endWithoutBlock
deriving DecidableEq

namespace Misplaced

def tag : Misplaced → String
  | elsifAfterElse | elsifWithoutIf => "ELSIF"
  | duplicateElse | elseWithoutIf => "ELSE"
  | endWithoutBlock => "END"

def message : Misplaced → String
  | elsifAfterElse => "ELSIF after ELSE"
  | elsifWithoutIf => "ELSIF without IF"
  | duplicateElse => "duplicate ELSE"
  | elseWithoutIf => "ELSE without IF"
  | endWithoutBlock => "END without an open block"

end Misplaced

inductive ParseFault where
  /-- The rules that failed at the place, and the text that stands there. -/
  | unexpected (expected : List Rule) (found : List Char)
  | misplaced (cause : Misplaced)
  | unclosed (block : BlockKind)
  | invalidNumber (text : String)

namespace ParseFault

/-- What stands at a place: the end, the end of a tag, or a word cut short. -/
def foundText (rest : List Char) : String :=
  if rest.isEmpty then "end of input"
  else if ['%', ']'].isPrefixOf rest then "'%]'"
  else "'" ++ String.ofList ((rest.takeWhile fun c => !Text.isBlank c).take 12) ++ "'"

def message : ParseFault → String
  | unexpected expected found =>
    "expected " ++ Rule.expectation expected ++ ", found " ++ foundText found
  | misplaced cause => cause.message
  | unclosed block => block.keyword ++ " block is never closed with END"
  | invalidNumber text => "invalid number literal '" ++ text ++ "'"

end ParseFault

/-- A fault, the template and the text that it stands in. -/
structure ParseError where
  name : String
  source : String
  span : Span
  fault : ParseFault

namespace ParseError

def position (e : ParseError) : Position := .ofOffset e.source e.span.start

def message (e : ParseError) : String :=
  e.name ++ ":" ++ toString e.position.line ++ ":" ++ toString e.position.column ++ ": "
    ++ e.fault.message

end ParseError
end TemplateEngine
