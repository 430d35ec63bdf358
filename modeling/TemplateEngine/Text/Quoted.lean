import TemplateEngine.Text.Visible

/-!
# Quoted strings

A quoted string stands between double quotes, with a backslash before a quote
or a backslash and with an escape for each character that is not shown. Two
styles differ in what they show: listings show visible characters only and have
an escape for the character zero, value dumps show all but control characters
and pad the code to four digits.
-/

namespace TemplateEngine.Text

def hexDigits (n : Nat) : List Char := Nat.toDigits 16 n

def padLeft (width : Nat) (fill : Char) (cs : List Char) : List Char :=
  List.replicate (width - cs.length) fill ++ cs

/-- A code point in hexadecimal, in braces. -/
def escapedCode (width : Nat) (c : Char) : List Char :=
  '\\' :: 'u' :: '{' :: padLeft width '0' (hexDigits c.toNat) ++ ['}']

/-- The general category Cc. -/
def isControl (c : Char) : Bool := c.toNat < 0x20 || (0x7F ≤ c.toNat && c.toNat < 0xA0)

/-- The escapes that both styles share. -/
def commonEscape? : Char → Option (List Char)
  | '"' => some ['\\', '"']
  | '\\' => some ['\\', '\\']
  | '\n' => some ['\\', 'n']
  | '\r' => some ['\\', 'r']
  | '\t' => some ['\\', 't']
  | _ => none

def listingEscape (c : Char) : List Char :=
  match commonEscape? c with
  | some escaped => escaped
  | none =>
    if c.toNat = 0 then ['\\', '0']
    else if isVisible c then [c]
    else escapedCode 0 c

def dumpEscape (c : Char) : List Char :=
  match commonEscape? c with
  | some escaped => escaped
  | none => if isControl c then escapedCode 4 c else [c]

def quotedWith (escape : Char → List Char) (s : String) : String :=
  String.ofList ('"' :: s.toList.flatMap escape ++ ['"'])

/-- The quoted form of listings. -/
def quoted (s : String) : String := quotedWith listingEscape s

/-- The quoted form of value dumps. -/
def quotedDump (s : String) : String := quotedWith dumpEscape s

end TemplateEngine.Text
