import TemplateEngine.Number.Rounding

/-!
# Written numbers

A numeral has a sign, whole digits, fraction digits and an exponent. Its value
as a float is the number nearest to the decimal that it denotes.
-/

namespace TemplateEngine

/-- The value of a row of decimal digits. -/
def decimalValue (digits : List Char) : Nat :=
  digits.foldl (fun acc c => acc * 10 + (c.toNat - '0'.toNat)) 0

structure Numeral where
  negative : Bool
  whole : List Char
  fraction : List Char
  exponent : Int
deriving DecidableEq

namespace Numeral

def toBinary64 (n : Numeral) : Binary64 :=
  .ofDecimal n.negative (decimalValue (n.whole ++ n.fraction)) (n.exponent - n.fraction.length)

/-- An exponent mark, a sign and digits; without the mark the exponent is zero. -/
def exponent? : List Char → Option Int
  | [] => some 0
  | mark :: rest =>
    if mark = 'e' ∨ mark = 'E' then
      let (negative, digits) := match rest with
        | '-' :: ds => (true, ds)
        | '+' :: ds => (false, ds)
        | ds => (false, ds)
      if digits.isEmpty || !digits.all Char.isDigit then none
      else some (if negative then -(decimalValue digits : Int) else decimalValue digits)
    else none

/-- Reads a whole text as a numeral; a point needs digits on both sides. -/
def ofChars? (cs : List Char) : Option Numeral :=
  let (negative, cs) := match cs with
    | '-' :: rest => (true, rest)
    | rest => (false, rest)
  let whole := cs.takeWhile Char.isDigit
  let cs := cs.dropWhile Char.isDigit
  if whole.isEmpty then none
  else
    match cs with
    | '.' :: rest =>
      let fraction := rest.takeWhile Char.isDigit
      if fraction.isEmpty then none
      else (exponent? (rest.dropWhile Char.isDigit)).map (⟨negative, whole, fraction, ·⟩)
    | rest => (exponent? rest).map (⟨negative, whole, [], ·⟩)

end Numeral
end TemplateEngine
