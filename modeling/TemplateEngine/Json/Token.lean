import TemplateEngine.Json.Number
import TemplateEngine.Value.Basic

/-!
# Tokens of JSON texts

The marks, words, numbers and strings of a text with the offsets at which they
start. What is no token becomes a faulty one, with which the tokens end; the
reader decides whether it gets that far.
-/

namespace TemplateEngine.Json

inductive Token where
  | listOpen
  | listClose
  | objectOpen
  | objectClose
  | colon
  | comma
  | string (s : String)
  /-- A number or a word. -/
  | scalar (v : Value)
  | faultyString (fault : Fault)
  | faulty (fault : Fault)

/-- The value of hexadecimal digits. -/
def hexValue? (digits : List Char) : Option Nat :=
  digits.foldlM (fun value c =>
    if c.isDigit then some (value * 16 + (c.toNat - '0'.toNat))
    else if 'a' ≤ c ∧ c ≤ 'f' then some (value * 16 + (c.toNat - 'a'.toNat + 10))
    else if 'A' ≤ c ∧ c ≤ 'F' then some (value * 16 + (c.toNat - 'A'.toNat + 10))
    else none) 0

/-- The code unit that four digits stand for. -/
def codeUnit (offset : Nat) (cs : List Char) : Except Fault Nat :=
  if utf8Length cs < 4 then .error ⟨.endInString, offset + utf8Length cs⟩
  else
    match hexValue? (cs.take 4) with
    | some n => .ok n
    | none => .error ⟨.invalidEscape, offset + 4⟩

def isLeading (unit : Nat) : Bool := 0xD800 ≤ unit && unit < 0xDC00

def isTrailing (unit : Nat) : Bool := 0xDC00 ≤ unit && unit < 0xE000

/-- The character of a pair of surrogates. -/
def pairChar (leading trailing : Nat) : Char :=
  Char.ofNat (0x10000 + (leading - 0xD800) * 0x400 + (trailing - 0xDC00))

/-- The character that an escape after a `u` stands for, and how many characters
the escape takes. A leading surrogate needs a trailing one in a second escape. -/
def unicodeEscape (offset : Nat) (cs : List Char) : Except Fault (Char × Nat) := do
  let unit ← codeUnit offset cs
  if isTrailing unit then throw ⟨.loneSurrogate, offset + 4⟩
  if !isLeading unit then return (Char.ofNat unit, 4)
  match cs.drop 4 with
  | [] => throw ⟨.endInString, offset + 4⟩
  | ['\\'] => throw ⟨.endInString, offset + 5⟩
  | '\\' :: 'u' :: rest =>
    let second ← codeUnit (offset + 6) rest
    if isTrailing second then return (pairChar unit second, 10)
    throw ⟨.loneSurrogate, offset + 10⟩
  | '\\' :: _ => throw ⟨.endOfSurrogate, offset + 6⟩
  | _ => throw ⟨.endOfSurrogate, offset + 5⟩

/-- The character that the text after a backslash stands for, and how many
characters it takes. -/
def escape (offset : Nat) : List Char → Except Fault (Char × Nat)
  | [] => .error ⟨.endInString, offset⟩
  | '"' :: _ => .ok ('"', 1)
  | '\\' :: _ => .ok ('\\', 1)
  | '/' :: _ => .ok ('/', 1)
  | 'b' :: _ => .ok ('\x08', 1)
  | 'f' :: _ => .ok ('\x0c', 1)
  | 'n' :: _ => .ok ('\n', 1)
  | 'r' :: _ => .ok ('\r', 1)
  | 't' :: _ => .ok ('\t', 1)
  | 'u' :: rest => do
    let (c, n) ← unicodeEscape (offset + 1) rest
    return (c, n + 1)
  | _ :: _ => .error ⟨.invalidEscape, offset + 1⟩

/-- The content of a string up to its closing quote, and how many characters it
takes with the quote. -/
def stringContent (offset : Nat) (cs : List Char) : Except Fault (List Char × Nat) :=
  match cs with
  | [] => .error ⟨.endInString, offset⟩
  | c :: rest =>
    if c = '"' then .ok ([], 1)
    else if c = '\\' then do
      let (escaped, n) ← escape (offset + 1) rest
      let (content, m) ← stringContent (offset + 1 + n) (rest.drop n)
      return (escaped :: content, n + m + 1)
    else if c.toNat < 0x20 then .error ⟨.controlCharacter, offset + 1⟩
    else do
      let (content, m) ← stringContent (offset + c.utf8Size) rest
      return (c :: content, m + 1)
termination_by cs.length

/-- Goes on with the letters of a word, and tells how many they are. -/
def word (offset : Nat) : List Char → List Char → Except Fault Nat
  | [], _ => .ok 0
  | _ :: _, [] => .error ⟨.endInValue, offset⟩
  | letter :: letters, c :: rest => do
    if c != letter then throw ⟨.expectedWord, offset + 1⟩
    let n ← word (offset + 1) letters rest
    return n + 1

/-- The token that starts with a character, and how many more it takes. -/
def token (offset : Nat) (c : Char) (rest : List Char) : Except Token (Token × Nat) :=
  let named (letters : String) (v : Value) : Except Token (Token × Nat) :=
    match word (offset + 1) letters.toList rest with
    | .ok n => .ok (.scalar v, n)
    | .error fault => .error (.faulty fault)
  if c = '[' then .ok (.listOpen, 0)
  else if c = ']' then .ok (.listClose, 0)
  else if c = '\x7b' then .ok (.objectOpen, 0)
  else if c = '\x7d' then .ok (.objectClose, 0)
  else if c = ':' then .ok (.colon, 0)
  else if c = ',' then .ok (.comma, 0)
  else if c = '"' then
    match stringContent (offset + 1) rest with
    | .ok (content, n) => .ok (.string (String.ofList content), n)
    | .error fault => .error (.faultyString fault)
  else if c = 'n' then named "ull" .undef
  else if c = 't' then named "rue" (.bool true)
  else if c = 'f' then named "alse" (.bool false)
  else if c = '-' then
    match number true (offset + 1) rest with
    | .ok (v, n) => .ok (.scalar v, n)
    | .error fault => .error (.faulty fault)
  else if c.isDigit then
    match number false offset (c :: rest) with
    | .ok (v, n) => .ok (.scalar v, n - 1)
    | .error fault => .error (.faulty fault)
  else .error (.faulty ⟨.expectedValue, offset + 1⟩)

def isSpace (c : Char) : Bool := c == ' ' || c == '\n' || c == '\t' || c == '\r'

/-- The tokens of a text that starts at an offset. -/
def tokens (offset : Nat) (cs : List Char) : List (Nat × Token) :=
  match cs with
  | [] => []
  | c :: rest =>
    if isSpace c then tokens (offset + 1) rest
    else
      match token offset c rest with
      | .error faulty => [(offset, faulty)]
      | .ok (here, n) =>
        (offset, here) :: tokens (offset + c.utf8Size + utf8Length (rest.take n)) (rest.drop n)
termination_by cs.length

end TemplateEngine.Json
