import TemplateEngine.Text.BreakClass

/-!
# Where a line may end

A line may end between two characters unless their classes forbid it. Marks
belong to the character before them, and blanks to what they follow, so that a
line ends behind them.
-/

namespace TemplateEngine.Text

namespace BreakClass

/-- Whether the character belongs to the one before it. -/
def attaches (k : BreakClass) : Bool := k == mark || k == joiner

/-- Pairs of classes that stay together even with blanks between them. A quotation
mark is not among them: it may close as well as open. -/
def keptOverBlanks (before after : BreakClass) : Bool :=
  [closing, closingBracket, exclamation, numericSeparator, solidus, wordJoiner].contains after
    || before == opening || before == wideOpening
    || ((before == closing || before == closingBracket) && after == nonstarter)
    || (before == breakBoth && after == breakBoth)

def letters : List BreakClass := [letter, hebrew]

def ideographs : List BreakClass := [ideograph, emojiBase, emojiModifier]

def hangul : List BreakClass :=
  [leadingJamo, vowelJamo, trailingJamo, openSyllable, closedSyllable]

/-- What stands together within words, numbers and syllables. -/
def pairs : List (List BreakClass × List BreakClass) := [
    (letters, [letter, hebrew, digit, unitBefore, unitAfter, opening]),
    ([digit], [letter, hebrew, digit, unitBefore, unitAfter, opening]),
    ([unitBefore, unitAfter], [letter, hebrew, digit, opening, wideOpening]),
    ([unitBefore], ideographs ++ hangul),
    (ideographs ++ hangul, [unitAfter]),
    ([closing, closingBracket], [unitBefore, unitAfter]),
    ([closingBracket], [letter, hebrew, digit]),
    ([hyphen, solidus], [digit]),
    ([numericSeparator], [letter, hebrew, digit]),
    ([solidus], [hebrew]),
    ([leadingJamo], [leadingJamo, vowelJamo, openSyllable, closedSyllable]),
    ([vowelJamo, openSyllable], [vowelJamo, trailingJamo]),
    ([trailingJamo, closedSyllable], [trailingJamo]),
    ([emojiBase], [emojiModifier])]

/-- Pairs of classes that stay together if nothing is between them. -/
def kept (before after : BreakClass) : Bool :=
  before == wordJoiner || before == glue
    || (after == glue && before != breakAfter && before != hyphen)
    || before == quotation || after == quotation
    || (before != contingent && after != contingent
      && (before == breakBefore || [breakAfter, hyphen, nonstarter, inseparable].contains after
        || pairs.any fun pair => pair.1.contains before && pair.2.contains after))

end BreakClass

/-- What stands before a place in a text. -/
structure BreakContext where
  /-- The last character that is no blank and attaches to no other. -/
  base : BreakClass
  /-- Whether blanks follow it. -/
  spaced : Bool
  /-- Whether a joiner is right before the place. -/
  joined : Bool
  /-- Whether the character follows a Hebrew letter. -/
  afterHebrew : Bool
  /-- Whether the character is the first half of a flag. -/
  halfFlag : Bool

namespace BreakContext

open BreakClass

/-- The context behind the first character of a line. -/
def start (k : BreakClass) : BreakContext :=
  { base := if k.attaches then letter else k
    spaced := k == space
    joined := k == joiner
    afterHebrew := false
    halfFlag := k == regional }

/-- Whether the character of class `k` belongs to the one before it. -/
def takes (b : BreakContext) (k : BreakClass) : Bool :=
  k.attaches && !b.spaced && b.base != lineEnd && b.base != zeroWidthSpace

/-- Whether a line may end before a character of class `k`. -/
def endsBefore (b : BreakContext) (k : BreakClass) : Bool :=
  if b.base == lineEnd then true
  else if k == lineEnd || k == space || k == zeroWidthSpace then false
  else if b.base == zeroWidthSpace then true
  else if b.joined || b.takes k then false
  else
    let k := if k.attaches then letter else k
    if keptOverBlanks b.base k then false
    else if b.spaced then true
    else
      !(kept b.base k || (b.afterHebrew && k != contingent && (b.base == hyphen || b.base == breakAfter))
        || (b.halfFlag && k == regional))

/-- The context behind the next character. -/
def next (b : BreakContext) (k : BreakClass) : BreakContext :=
  if b.base == lineEnd then start k
  else if k == space then { b with spaced := true, joined := false }
  else if b.takes k then { b with joined := k == joiner }
  else
    { start k with
      afterHebrew := !b.spaced && b.base == hebrew
      halfFlag := k == regional && (b.spaced || !b.halfFlag) }

end BreakContext

/-- For each character whether a line may end before it. -/
def linePlaces (cs : List Char) : List Bool :=
  go none cs
where
  go : Option BreakContext → List Char → List Bool
    | _, [] => []
    | none, c :: rest => false :: go (some (.start (.ofChar c))) rest
    | some b, c :: rest => b.endsBefore (.ofChar c) :: go (some (b.next (.ofChar c))) rest

end TemplateEngine.Text
