/-!
# Lines of a text

A line ends after a line feed, a carriage return, both of them in that order, or
one of the other characters that end a line; it keeps its end. Concatenating the
lines gives the text back. Offsets count characters.
-/

namespace TemplateEngine.Text

/-- Line feed, vertical tab, form feed, carriage return, next line, line and paragraph separator. -/
def isLineEnd (c : Char) : Bool :=
  let code := c.toNat
  (10 ≤ code && code ≤ 13) || code == 0x85 || code == 0x2028 || code == 0x2029

/-- Puts a character in front of the first line. -/
def extendFirst (c : Char) : List (List Char) → List (List Char)
  | [] => [[c]]
  | line :: rest => (c :: line) :: rest

def splitLines : List Char → List (List Char)
  | [] => []
  | '\r' :: '\n' :: rest => ['\r', '\n'] :: splitLines rest
  | c :: rest => if isLineEnd c then [c] :: splitLines rest else extendFirst c (splitLines rest)

/-- A line, with the number of lines and of characters before it. -/
structure Line where
  index : Nat
  offset : Nat
  chars : List Char
deriving DecidableEq

/-- Numbers lines. -/
def placeLines (index offset : Nat) : List (List Char) → List Line
  | [] => []
  | line :: rest => ⟨index, offset, line⟩ :: placeLines (index + 1) (offset + line.length) rest

/-- The lines of a text. The empty text has one line. -/
def lines (s : List Char) : List Line :=
  match s with
  | [] => [⟨0, 0, []⟩]
  | _ => placeLines 0 0 (splitLines s)

/-- The last line that starts at or before an offset. -/
def lineAt (ls : List Line) (offset : Nat) : Line :=
  ((ls.takeWhile fun line => line.offset ≤ offset).getLast?).getD ⟨0, 0, []⟩

end TemplateEngine.Text
