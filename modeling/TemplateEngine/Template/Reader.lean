import TemplateEngine.Text.Position

/-!
# Readers

A reader takes a value off the front of a text. It has two independent parts.
`read` says what is read, and is all that a successful parse depends on.
`attempts` keeps account, for the sake of error messages, of the rules that
failed at the farthest place so far. A place that is taken back by a choice or
a repetition is simply not used any more.
-/

namespace TemplateEngine

/-- What is left of a text, and how many bytes lie before it. -/
structure Cursor where
  rest : List Char
  offset : Nat

namespace Cursor

def ofString (source : String) : Cursor := ⟨source.toList, 0⟩

/-- Splits off the longest run of characters that pass a test. -/
def takeWhile (test : Char → Bool) (c : Cursor) : List Char × Cursor :=
  let taken := c.rest.takeWhile test
  (taken, ⟨c.rest.dropWhile test, c.offset + utf8Length taken⟩)

/-- Splits off a given text. -/
def strip? (text : List Char) (c : Cursor) : Option Cursor :=
  if text.isPrefixOf c.rest then
    some ⟨c.rest.drop text.length, c.offset + utf8Length text⟩
  else none

/-- The blanks that may stand between the parts of a tag. -/
def isSpace (ch : Char) : Bool := ch == ' ' || ch == '\t' || ch == '\r' || ch == '\n'

def skipSpace (c : Cursor) : Cursor := (c.takeWhile isSpace).2

end Cursor

/-- The rules that failed at the farthest place at which one failed. -/
structure Attempts (ρ : Type) where
  place : Nat
  rules : List ρ

namespace Attempts

variable {ρ : Type}

/-- Nothing has failed yet. -/
def none : Attempts ρ := ⟨0, []⟩

def countAt (t : Attempts ρ) (place : Nat) : Nat := if place = t.place then t.rules.length else 0

/-- Accounts for a rule that failed at a place. `before` is what was known when
the rule was entered. If exactly one rule failed inside of it at that place, the
inner rule says it better and stays; else the rule stands for all inside. -/
def fail (t : Attempts ρ) (rule : ρ) (place : Nat) (before : Attempts ρ) : Attempts ρ :=
  if t.countAt place = before.countAt place + 1 then t
  else if place = t.place then ⟨place, t.rules.take (before.countAt place) ++ [rule]⟩
  else if place > t.place then ⟨place, [rule]⟩
  else t

end Attempts

structure Reader (ρ α : Type) where
  read : Cursor → Option (α × Cursor)
  attempts : Cursor → Attempts ρ → Attempts ρ

namespace Reader

variable {ρ α β : Type}

/-- A reader whose failures are not accounted for. -/
def silent (read : Cursor → Option (α × Cursor)) : Reader ρ α := ⟨read, fun _ t => t⟩

def failure : Reader ρ α := silent fun _ => none

/-- Reads one part after the other. -/
protected def bind (p : Reader ρ α) (next : α → Reader ρ β) : Reader ρ β where
  read c := match p.read c with
    | none => none
    | some (a, c) => (next a).read c
  attempts c t :=
    let t := p.attempts c t
    match p.read c with
    | none => t
    | some (a, c) => (next a).attempts c t

instance : Monad (Reader ρ) where
  pure a := silent fun c => some (a, c)
  bind := Reader.bind

@[simp] theorem read_pure (a : α) (c : Cursor) : (pure a : Reader ρ α).read c = some (a, c) := rfl

@[simp] theorem read_bind (p : Reader ρ α) (next : α → Reader ρ β) (c : Cursor) :
    (p >>= next).read c = (p.read c).bind fun r => (next r.1).read r.2 := by
  show (match p.read c with
    | none => none
    | some (a, c) => (next a).read c) = _
  cases p.read c <;> rfl

/-- The second reader starts over where the first one started. -/
def either (p q : Reader ρ α) : Reader ρ α where
  read c := match p.read c with
    | none => q.read c
    | some r => some r
  attempts c t :=
    let t := p.attempts c t
    match p.read c with
    | none => q.attempts c t
    | some _ => t

/-- The first of several readers that succeeds. -/
def firstOf : List (Reader ρ α) → Reader ρ α
  | [] => failure
  | [p] => p
  | p :: rest => either p (firstOf rest)

def optional (p : Reader ρ α) : Reader ρ (Option α) where
  read c := match p.read c with
    | none => some (none, c)
    | some (a, c) => some (some a, c)
  attempts c t := p.attempts c t

/-- At most `limit` repetitions; what a failing one has consumed is given back. -/
def readMany (read : Cursor → Option (α × Cursor)) : Nat → Cursor → List α × Cursor
  | 0, c => ([], c)
  | limit + 1, c =>
    match read c with
    | none => ([], c)
    | some (a, c) =>
      let (rest, c) := readMany read limit c
      (a :: rest, c)

def attemptMany (p : Reader ρ α) : Nat → Cursor → Attempts ρ → Attempts ρ
  | 0, _, t => t
  | limit + 1, c, t =>
    let t := p.attempts c t
    match p.read c with
    | none => t
    | some (_, c) => attemptMany p limit c t

/-- Repeats a reader as often as it succeeds, within the limit. -/
def many (limit : Nat) (p : Reader ρ α) : Reader ρ (List α) where
  read c := some (readMany p.read limit c)
  attempts c t := attemptMany p limit c t

/-- The blanks between two parts. -/
def space : Reader ρ Unit := silent fun c => some ((), c.skipSpace)

def exact (text : List Char) : Reader ρ Unit := silent fun c => (c.strip? text).map (((), ·))

/-- Succeeds without reading iff the text does not come next. -/
def absent (text : List Char) : Reader ρ Unit :=
  silent fun c => if text.isPrefixOf c.rest then none else some ((), c)

/-- Puts a failure of the reader to the account of a rule. -/
def rule (r : ρ) (p : Reader ρ α) : Reader ρ α where
  read := p.read
  attempts c before :=
    let t := p.attempts c before
    match p.read c with
    | some _ => t
    | none => t.fail r c.offset before

@[simp] theorem read_rule (r : ρ) (p : Reader ρ α) (c : Cursor) : (rule r p).read c = p.read c := rfl

/-- A rule without inner rules. -/
def token (r : ρ) (read : Cursor → Option (α × Cursor)) : Reader ρ α := rule r (silent read)

/-- Reads a value together with its span. -/
def spanned (p : Reader ρ α) : Reader ρ (α × Span) where
  read c := match p.read c with
    | none => none
    | some (a, d) => some ((a, ⟨c.offset, d.offset⟩), d)
  attempts := p.attempts

/-- One or more, between commas. -/
def separated (limit : Nat) (p : Reader ρ α) : Reader ρ (List α) := do
  let first ← p
  space
  let rest ← many limit do
    space
    exact [',']
    space
    p
  return first :: rest

/-- None, one or more, between commas. -/
def listed (limit : Nat) (p : Reader ρ α) : Reader ρ (List α) := do
  let items ← optional (separated limit p)
  return items.getD []

end Reader
end TemplateEngine
