import TemplateEngine.Number.Numeral
import TemplateEngine.Template.Reader
import TemplateEngine.Template.Rule

/-!
# Words and literals

The smallest parts of a tag. Inside of them no blanks are skipped.
-/

namespace TemplateEngine.Token

/-- Letters, digits and the underscore, of ASCII only. -/
def isWordChar (c : Char) : Bool := c.isAlphanum || c == '_'

def keywords : List String := [
    "IF", "ELSIF", "ELSE", "UNLESS", "END", "FOREACH", "FOR", "INCLUDE", "IN", "WHILE", "SET",
    "MACRO", "BLOCK", "WITH", "and", "or", "not", "true", "false", "undef"]

/-- One or more characters that pass a test. -/
def takeSome (test : Char → Bool) (c : Cursor) : Option (List Char × Cursor) :=
  match c.takeWhile test with
  | ([], _) => none
  | taken => some taken

/-- A given word that does not go on. -/
def word (r : Rule) (text : String) : Reader Rule Unit :=
  .token r fun c =>
    match takeSome isWordChar c with
    | some (taken, d) => if taken = text.toList then some ((), d) else none
    | none => none

/-- A name: a word that does not start with a digit and is no keyword. -/
def identifier : Reader Rule String :=
  .token .identifier fun c =>
    match takeSome isWordChar c with
    | some (first :: rest, d) =>
      let name := String.ofList (first :: rest)
      if first.isDigit || name ∈ keywords then none else some (name, d)
    | _ => none

/-- The name of a field: any word, also a keyword or a number. -/
def fieldName : Reader Rule String :=
  .token .fieldName fun c => (takeSome isWordChar c).map fun (taken, d) => (String.ofList taken, d)

/-- Digits, a point and digits. -/
def float : Reader Rule Binary64 :=
  .token .floatLiteral fun c =>
    match takeSome Char.isDigit c with
    | none => none
    | some (whole, c) =>
      match c.strip? ['.'] with
      | none => none
      | some c =>
        (takeSome Char.isDigit c).map fun (fraction, d) =>
          (Numeral.toBinary64 ⟨false, whole, fraction, 0⟩, d)

def int : Reader Rule (List Char) := .token .intLiteral (takeSome Char.isDigit)

/-- The text up to a quote; a backslash takes the next character with it. -/
def untilQuote (quote : Char) : List Char → List Char × List Char
  | [] => ([], [])
  | '\\' :: [] => ([], ['\\'])
  | '\\' :: c :: rest =>
    let (taken, left) := untilQuote quote rest
    ('\\' :: c :: taken, left)
  | c :: rest =>
    if c = quote then ([], c :: rest)
    else
      let (taken, left) := untilQuote quote rest
      (c :: taken, left)

/-- Resolves the backslashes of a quoted text. -/
def unescape : List Char → List Char
  | [] => []
  | '\\' :: 'n' :: rest => '\n' :: unescape rest
  | '\\' :: 't' :: rest => '\t' :: unescape rest
  | '\\' :: 'r' :: rest => '\r' :: unescape rest
  | '\\' :: '0' :: rest => '\x00' :: unescape rest
  | '\\' :: c :: rest => c :: unescape rest
  | c :: rest => c :: unescape rest

def quotedBy (quote : Char) : Reader Rule String := do
  .exact [quote]
  let inner ← .token .quotedText fun c =>
    let (taken, left) := untilQuote quote c.rest
    some (taken, ⟨left, c.offset + utf8Length taken⟩)
  .exact [quote]
  return String.ofList (unescape inner)

def string : Reader Rule String :=
  .rule .stringLiteral (.either (quotedBy '"') (quotedBy '\''))

end TemplateEngine.Token
