import TemplateEngine.Text.Blank
import TemplateEngine.Text.Lines
import TemplateEngine.Text.Width

/-!
# Snippets

A part of a source text shown with a message: its first and last line under a
numbered margin, and a mark under the part, or around it where it runs over
several lines. Rows consist of pieces that carry their colour, so that the same
rows serve with and without colours.
-/

namespace TemplateEngine

inductive Ink where
  | plain
  /-- What the message is about. -/
  | label
  | margin
  /-- The margin beside rows that are no line of the source. -/
  | skipped
  /-- Source outside the label. -/
  | source
deriving DecidableEq

/-- The terminal's code of a colour. -/
def Ink.code? : Ink → Option String
  | plain => none
  | label => some "31"
  | margin => some "38;5;246"
  | skipped => some "38;5;240"
  | source => some "38;5;249"

structure Inked where
  ink : Ink
  text : String
deriving DecidableEq

/-- The text of a piece, between codes that set and reset its colour. -/
def Inked.render (coloured : Bool) (p : Inked) : String :=
  match p.ink.code? with
  | some code => if coloured then "\x1b[" ++ code ++ "m" ++ p.text ++ "\x1b[0m" else p.text
  | none => p.text

abbrev Row := List Inked

def Row.render (coloured : Bool) (row : Row) : String :=
  String.join (row.map (Inked.render coloured)) ++ "\n"

/-- A labelled part of a source text. Offsets count characters. -/
structure Snippet where
  title : String
  /-- The name of the source. -/
  name : String
  source : List Char
  start : Nat
  stop : Nat
  message : String
deriving DecidableEq

namespace Snippet

def tabWidth : Nat := 4

/-- How far a row of marks goes on after the label. -/
def tailLength : Nat := 2

def times (n : Nat) (c : Char) : String := String.ofList (List.replicate n c)

def plain (text : String) : Inked := ⟨.plain, text⟩

/-- Cells that a character takes in a column; a tab goes on to the next tab stop. -/
def charCells (column : Nat) (c : Char) : Nat :=
  if c = '\t' then (column / tabWidth + 1) * tabWidth - column
  else if Text.isBlank c then 1
  else Text.cellWidth c

/-- Cells of a column under a line; beyond its end a column is one cell. -/
def columnCells (text : List Char) (column : Nat) : Nat :=
  (text[column]?).elim 1 (charCells column)

/-- A mark in the first cell of a column, and its continuation in the other cells. -/
def fill (ink : Ink) (mark tail : String) : Nat → Row
  | 0 => []
  | n + 1 => ⟨ink, mark⟩ :: List.replicate n ⟨ink, tail⟩

/-- The marks of the first `n` columns under a line. -/
def underLine (text : List Char) (n : Nat) (mark : Nat → Ink × String × String) : Row :=
  (List.range n).flatMap fun column =>
    let (ink, first, tail) := mark column
    fill ink first tail (columnCells text column)

def trimEnd (line : List Char) : List Char := (line.reverse.dropWhile Text.isBlank).reverse

section

variable (s : Snippet)

def lines : List Text.Line := Text.lines s.source

def firstLine : Text.Line := Text.lineAt s.lines s.start

/-- The line of the last character of the label. -/
def lastLine : Text.Line := Text.lineAt s.lines (max (s.stop - 1) s.start)

def covers (offset : Nat) : Bool := s.start ≤ offset && offset < s.stop

/-- Digits of the greatest line number shown. -/
def numberWidth : Nat := (toString (s.lastLine.index + 1)).length

def lineMargin (line : Text.Line) : Row :=
  let number := toString (line.index + 1)
  [plain " ", ⟨.margin, times (s.numberWidth - number.length) ' ' ++ number ++ " │"⟩, plain " "]

/-- The margin beside a row that is no line of the source. -/
def skippedMargin (stroke : String) : Row :=
  [plain " ", ⟨.skipped, times (s.numberWidth + 1) ' ' ++ stroke⟩, plain " "]

/-- The text of a line, a blank as spaces, without the blanks at its end. -/
def lineText (line : Text.Line) : Row :=
  (trimEnd line.chars).zipIdx.flatMap fun (c, column) =>
    let ink := if s.covers (line.offset + column) then Ink.label else Ink.source
    if Text.isBlank c then List.replicate (charCells column c) ⟨ink, " "⟩
    else [⟨ink, String.singleton c⟩]

def messageText : Inked := plain (" " ++ s.message)

/-- A label within a line: strokes under it, one of which leads down to the message. -/
def inlineRows (line : Text.Line) : List Row :=
  let text := trimEnd line.chars
  let column := max ((s.start + s.stop) / 2) s.start - line.offset
  let length := s.stop - line.offset + tailLength
  let under := underLine text length fun c =>
    let covered := s.covers (line.offset + c)
    if c = column then if covered then (.label, "┬", "─") else (.label, "│", " ")
    else if covered then (.label, "─", "─")
    else (.plain, " ", " ")
  let arrow := underLine text length fun c =>
    if c < column then (.plain, " ", " ")
    else if c = column then (.label, "╰", "─")
    else (.label, "─", "─")
  [s.lineMargin line ++ s.lineText line,
    s.skippedMargin "│" ++ under,
    s.skippedMargin "│" ++ arrow ++ [s.messageText]]

/-- The pieces of a bracket that encloses lines. -/
def bracket (marks : List String) : Row := marks.map fun mark => ⟨.label, mark⟩

/-- A label over several lines: a bracket from the first to the last line and on to the message. -/
def bracketRows (first last : Text.Line) : List Row :=
  let text := trimEnd last.chars
  let length := last.chars.length + tailLength
  let inside := plain (times 3 ' ')
  let between : List Row :=
    if first.index + 1 < last.index then [s.skippedMargin "┆" ++ [⟨.label, "┆"⟩, inside]] else []
  [s.lineMargin first ++ bracket ["╭", "─", "▶", " "] ++ s.lineText first]
    ++ between
    ++ [s.lineMargin last ++ bracket ["├", "─", "▶", " "] ++ s.lineText last,
      s.skippedMargin "│" ++ [⟨.label, "│"⟩, inside]
        ++ underLine text length (fun _ => (.plain, " ", " ")),
      s.skippedMargin "│" ++ bracket ["╰", "─", "─", "─"]
        ++ underLine text length (fun _ => (.label, "─", "─")) ++ [s.messageText]]

/-- The name of the source with the place at which the label starts. -/
def place : String :=
  s.name ++ ":" ++ toString (s.firstLine.index + 1) ++ ":"
    ++ toString (s.start - s.firstLine.offset + 1)

def rows : List Row :=
  let indent := plain (times (s.numberWidth + 2) ' ')
  let first := s.firstLine
  let last := s.lastLine
  [[⟨.label, "Error:"⟩, plain (" " ++ s.title)],
    [indent, ⟨.margin, "╭"⟩, ⟨.margin, "─"⟩, ⟨.margin, "["⟩, plain (" " ++ s.place ++ " "),
      ⟨.margin, "]"⟩],
    [indent, ⟨.margin, "│"⟩]]
    ++ (if first.index = last.index then s.inlineRows first else s.bracketRows first last)
    ++ [[⟨.margin, times (s.numberWidth + 2) '─' ++ "╯"⟩]]

end
end Snippet
end TemplateEngine
