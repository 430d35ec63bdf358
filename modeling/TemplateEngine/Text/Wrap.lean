import TemplateEngine.Text.Alphanumeric
import TemplateEngine.Text.LineBreak
import TemplateEngine.Text.Quoted
import TemplateEngine.Text.Width

/-!
# Wrapped text

A text is set in lines of a given width: as many words as fit go on a line, a
word that is wider than a line is cut, and the blanks at which a line ends are
left out. Each line is indented, the first one in its own way.

Words end at the places where a line may end, and behind a hyphen between two
letters or digits; behind other hyphens a line does not end.
-/

namespace TemplateEngine.Text

/-- A piece of a line and the blanks after it. -/
structure Word where
  chars : List Char
  blanks : Nat
deriving DecidableEq

/-- Cells of a character in a wrapped text; a control character has none. -/
def textWidth (c : Char) : Nat := if isControl c then 0 else cellWidth c

/-- Cells of some characters. -/
def cells (cs : List Char) : Nat := cs.foldr (fun c n => textWidth c + n) 0

/-- Whether a word goes on behind the character whatever its class. -/
def isHyphen (c : Char) : Bool := c == '-' || c.toNat == 0xAD

/-- Clears the last mark. -/
def clearLast : List Bool → List Bool
  | [] => []
  | mark :: rest => if mark && !rest.contains true then false :: rest else mark :: clearLast rest

/-- For each character whether a word starts with it. The last place at which a
line may end is left out: that is the end of the line, or, if a hyphen stands
there, the one before. -/
def wordStarts (line : List Char) : List Bool :=
  let starts := ('-' :: line).zipWith (fun before place => place && !isHyphen before)
    (linePlaces line)
  if line.getLast?.any isHyphen then clearLast starts else starts

/-- Cuts a list before each marked element. -/
def cutAt {α : Type} : List α → List Bool → List (List α)
  | [], _ => []
  | x :: rest, marks =>
    match cutAt rest marks.tail with
    | [] => [[x]]
    | piece :: pieces =>
      if marks.tail.head?.getD false then [x] :: piece :: pieces else (x :: piece) :: pieces

/-- For each character whether it follows a hyphen behind which a word is split,
one between letters or digits; `first` and `second` are the two characters in front. -/
def hyphenEnds (first second : Char) : List Char → List Bool
  | [] => []
  | c :: rest =>
    (second == '-' && isAlphanumeric first && isAlphanumeric c) :: hyphenEnds second c rest

/-- Splits a word that is followed by blanks. -/
def splitWord (cs : List Char) : List Word :=
  let blanks := (cs.reverse.takeWhile (· = ' ')).length
  let chars := cs.take (cs.length - blanks)
  match (cutAt chars (hyphenEnds ' ' ' ' chars)).reverse with
  | [] => [⟨[], blanks⟩]
  | piece :: pieces => (⟨piece, blanks⟩ :: pieces.map (⟨·, 0⟩)).reverse

/-- The words of a line; blanks in front belong to an empty one. -/
def words (line : List Char) : List Word := (cutAt line (wordStarts line)).flatMap splitWord

/-- Cuts a word into pieces of at most `width` cells, where `used` cells of the
first piece are taken. -/
def cutWord (width : Nat) (blanks : Nat) (used : Nat) : List Char → List Word
  | [] => [⟨[], blanks⟩]
  | c :: rest =>
    if 0 < used ∧ width < used + textWidth c then
      match cutWord width blanks (textWidth c) rest with
      | w :: pieces => ⟨[], 0⟩ :: ⟨c :: w.chars, w.blanks⟩ :: pieces
      | [] => []
    else
      match cutWord width blanks (used + textWidth c) rest with
      | w :: pieces => ⟨c :: w.chars, w.blanks⟩ :: pieces
      | [] => []

/-- Puts words on lines of a width. `line` holds the words of the current line,
the last one first, and `used` the cells of them and of the blanks after them. -/
def fit (width : Nat) (line : List Word) (used : Nat) : List Word → List (List Word)
  | [] => [line.reverse]
  | w :: rest =>
    let cellsOf := cells w.chars
    if !line.isEmpty && width < used + cellsOf then
      line.reverse :: fit width [w] (cellsOf + w.blanks) rest
    else fit width (w :: line) (used + cellsOf + w.blanks) rest

/-- The text of a line without the blanks at its end. -/
def lineOfWords : List Word → List Char
  | [] => []
  | [w] => w.chars
  | w :: rest => w.chars ++ List.replicate w.blanks ' ' ++ lineOfWords rest

/-- The lines that one line of a text takes. -/
def wrapLine (width : Nat) (line : List Char) : List (List Char) :=
  let pieces := (words line).flatMap fun w => cutWord width w.blanks 0 w.chars
  (fit width [] 0 pieces).map lineOfWords

/-- Sets a text; the indents count as part of the width and are equally wide. -/
def wrap (width : Nat) (first next text : String) : String :=
  let lines := (text.toList.splitOn '\n').flatMap (wrapLine (width - cells first.toList))
  let indents := first :: List.replicate lines.length next
  "\n".intercalate (indents.zipWith (fun indent line => indent ++ String.ofList line) lines)

end TemplateEngine.Text
