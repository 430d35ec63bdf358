/-!
# Positions in a source text

Spans are half open and count UTF-8 bytes. Lines and columns count from one, a
column counts characters, and a line ends after its line feed.
-/

namespace TemplateEngine

/-- Bytes of the UTF-8 form of some characters. -/
def utf8Length : List Char → Nat
  | [] => 0
  | c :: rest => c.utf8Size + utf8Length rest

theorem utf8Length_append (xs ys : List Char) :
    utf8Length (xs ++ ys) = utf8Length xs + utf8Length ys := by
  induction xs with
  | nil => simp [utf8Length]
  | cons x xs ih => simp [utf8Length, ih, Nat.add_assoc]

/-- The characters from a byte offset on. -/
def dropBytes (n : Nat) : List Char → List Char
  | [] => []
  | c :: rest => if n = 0 then c :: rest else dropBytes (n - c.utf8Size) rest

/-- The characters before a byte offset. -/
def takeBytes (n : Nat) : List Char → List Char
  | [] => []
  | c :: rest => if n = 0 then [] else c :: takeBytes (n - c.utf8Size) rest

structure Span where
  start : Nat
  stop : Nat
deriving DecidableEq, Inhabited, Repr

namespace Span

/-- From the start of one span to the end of another. -/
def join (a b : Span) : Span := ⟨a.start, b.stop⟩

def textIn (s : Span) (source : String) : String :=
  String.ofList (takeBytes (s.stop - s.start) (dropBytes s.start source.toList))

end Span

structure Position where
  line : Nat
  column : Nat
deriving DecidableEq, Repr

namespace Position

def start : Position := ⟨1, 1⟩

/-- The position after a character. -/
def next (p : Position) (c : Char) : Position :=
  if c = '\n' then ⟨p.line + 1, 1⟩ else ⟨p.line, p.column + 1⟩

/-- The position of a byte offset; one past the end counts as the end. -/
def ofOffset (source : String) (offset : Nat) : Position :=
  (takeBytes offset source.toList).foldl next start

end Position
end TemplateEngine
