import TemplateEngine.Text.Position

/-!
# Faults of JSON texts

What is wrong with a text that is no JSON, and the byte offset up to which it
had been read. A message tells the line and the bytes read of it.
-/

namespace TemplateEngine.Json

inductive Problem where
  | endInList
  | endInObject
  | endInString
  | endInValue
  | expectedColon
  | expectedListEnd
  | expectedObjectEnd
  | expectedWord
  | expectedValue
  | invalidEscape
  | invalidNumber
  | numberOutOfRange
  | controlCharacter
  | keyNotString
  | loneSurrogate
  | trailingComma
  | trailingText
  | endOfSurrogate
  | tooDeep
deriving DecidableEq

def Problem.message : Problem → String
  | endInList => "EOF while parsing a list"
  | endInObject => "EOF while parsing an object"
  | endInString => "EOF while parsing a string"
  | endInValue => "EOF while parsing a value"
  | expectedColon => "expected `:`"
  | expectedListEnd => "expected `,` or `]`"
  | expectedObjectEnd => "expected `,` or `\x7d`"
  | expectedWord => "expected ident"
  | expectedValue => "expected value"
  | invalidEscape => "invalid escape"
  | invalidNumber => "invalid number"
  | numberOutOfRange => "number out of range"
  | controlCharacter => "control character (\\u0000-\\u001F) found while parsing a string"
  | keyNotString => "key must be a string"
  | loneSurrogate => "lone leading surrogate in hex escape"
  | trailingComma => "trailing comma"
  | trailingText => "trailing characters"
  | endOfSurrogate => "unexpected end of hex escape"
  | tooDeep => "recursion limit exceeded"

structure Fault where
  problem : Problem
  offset : Nat
deriving DecidableEq

/-- The message on a fault of a text. -/
def Fault.message (source : String) (f : Fault) : String :=
  let before := takeBytes f.offset source.toList
  let line := before.reverse.takeWhile fun c => c != '\n'
  let column := f.offset - (utf8Length before - utf8Length line)
  f.problem.message ++ " at line " ++ toString (before.count '\n' + 1) ++ " column "
    ++ toString column

end TemplateEngine.Json
