/-!
# Rules of the grammar

The rules of the template grammar, in the order in which a message names what
was expected, and the words for them.
-/

namespace TemplateEngine

inductive Rule where
  | endOfInput
  | text
  | comment
  | tag
  | ifTag
  | elsifTag
  | elseTag
  | unlessTag
  | endTag
  | foreachTag
  | whileTag
  | setTag
  | macroTag
  | macroParams
  | includeTag
  | includeArg
  | printTag
  | expression
  | negOp
  | notOp
  | orOp
  | andOp
  | eqOp
  | neOp
  | leOp
  | geOp
  | ltOp
  | gtOp
  | concatOp
  | addOp
  | subOp
  | mulOp
  | divOp
  | moduloOp
  | fieldOp
  | indexOp
  | callOp
  | filterOp
  | floatLiteral
  | intLiteral
  | stringLiteral
  | quotedText
  | trueLiteral
  | falseLiteral
  | undefLiteral
  | listLiteral
  | identifier
  | fieldName
  | kwIf
  | kwElsif
  | kwElse
  | kwUnless
  | kwEnd
  | kwForeach
  | kwFor
  | kwIn
  | kwWhile
  | kwSet
  | kwMacro
  | kwBlock
  | kwInclude
  | kwWith
  | kwAnd
  | kwOr
  | kwNot
deriving DecidableEq

namespace Rule

/-- In the order of the message. -/
def all : List Rule := [
    endOfInput, text, comment, tag, ifTag, elsifTag, elseTag, unlessTag, endTag, foreachTag,
    whileTag, setTag, macroTag, macroParams, includeTag, includeArg, printTag, expression, negOp,
    notOp, orOp, andOp, eqOp, neOp, leOp, geOp, ltOp, gtOp, concatOp, addOp, subOp, mulOp, divOp,
    moduloOp, fieldOp, indexOp, callOp, filterOp, floatLiteral, intLiteral, stringLiteral,
    quotedText, trueLiteral, falseLiteral, undefLiteral, listLiteral, identifier, fieldName, kwIf,
    kwElsif, kwElse, kwUnless, kwEnd, kwForeach, kwFor, kwIn, kwWhile, kwSet, kwMacro, kwBlock,
    kwInclude, kwWith, kwAnd, kwOr, kwNot]

/-- What a template author would call the thing. -/
def concept : Rule → String
  | intLiteral | floatLiteral | stringLiteral | trueLiteral | falseLiteral => "literal"
  | identifier => "identifier"
  | fieldName => "field name"
  | endOfInput => "end of input"
  | tag | text | comment => "template text or tag"
  | kwBlock => "BLOCK"
  | kwIn => "IN"
  | orOp | andOp | eqOp | neOp | ltOp | leOp | gtOp | geOp | concatOp | addOp | subOp | mulOp
  | divOp | moduloOp => "operator"
  | _ => "expression"

/-- Words with commas between them and `or` before the last one. -/
def alternatives : List String → String
  | [] => "something else"
  | [word] => word
  | words => ", ".intercalate words.dropLast ++ " or " ++ words.getLastD ""

/-- What was expected where these rules failed; each concept is named once. -/
def expectation (rules : List Rule) : String :=
  alternatives (((all.filter fun r => r ∈ rules).map concept).eraseDups)

end Rule
end TemplateEngine
