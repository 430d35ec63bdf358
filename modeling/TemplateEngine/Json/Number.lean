import TemplateEngine.Json.Fault
import TemplateEngine.Number.Numeral
import TemplateEngine.Value.Basic

/-!
# Numbers in JSON

A number without fraction and exponent that fits into 64 bits is an integer,
except for the negative zero. Any other number is a float: its leading digits,
as many as fit into 64 bits, are multiplied or divided by a power of ten. A
number that is too great for a float is refused.
-/

namespace TemplateEngine.Json

/-- Digits that would lead beyond it are dropped. -/
def maxSignificand : Nat := Nat.pow 2 64 - 1

/-- The greatest power of ten that a float holds has this exponent. -/
def maxPower : Nat := 308

def maxExponent : Nat := Nat.pow 2 31 - 1

/-- Appends digits to a significand; the digits from the first one that does not
fit on are left over. -/
def absorb (significand : Nat) : List Char → Nat × List Char
  | [] => (significand, [])
  | d :: rest =>
    let next := decimalValue [d] + significand * 10
    if next ≤ maxSignificand then absorb next rest else (significand, d :: rest)

def powerOfTen (n : Nat) : Binary64 := .ofDecimal false 1 n

/-- Divides by a power of ten, in several steps if no float holds the power. -/
def divideByPower (x : Binary64) (n : Nat) : Binary64 :=
  if n ≤ maxPower then x.div (powerOfTen n)
  else if x.isZero then x
  else divideByPower (x.div (powerOfTen maxPower)) (n - maxPower)
termination_by n
decreasing_by simp_all [maxPower]; omega

/-- A significand times a power of ten; `none` if it is out of range. -/
def scaled (significand : Nat) (exponent : Int) : Option Binary64 :=
  let x := Binary64.ofDecimal false significand 0
  if exponent < 0 then some (divideByPower x exponent.natAbs)
  else if x.isZero then some x
  else if maxPower < exponent.toNat then none
  else
    let y := x.mul (powerOfTen exponent.toNat)
    if y.isInfinite then none else some y

/-- The parts of a number. -/
structure NumberParts where
  negative : Bool
  whole : List Char
  /-- Empty without a point. -/
  fraction : List Char
  negativeExponent : Bool
  /-- Empty without an exponent. -/
  exponent : List Char
deriving DecidableEq

namespace NumberParts

variable (p : NumberParts)

/-- The value of a number that is an integer. -/
def integer? : Option Int64 :=
  if p.fraction.isEmpty && p.exponent.isEmpty then
    let n := decimalValue p.whole
    if p.negative then
      if 0 < n ∧ n ≤ Nat.pow 2 63 then some (Int64.ofInt (-n)) else none
    else if n < Nat.pow 2 63 then some (Int64.ofNat n) else none
  else none

/-- The value of the number as a float; `none` if it is out of range. -/
def float? : Option Binary64 :=
  let (significand, dropped) := absorb 0 p.whole
  let (significand, left) := absorb significand p.fraction
  let point : Int := dropped.length - (p.fraction.length - left.length : Nat)
  let exponent : Int := decimalValue p.exponent
  let x :=
    if p.negativeExponent then scaled significand (point - exponent)
    else if maxExponent < exponent && significand != 0 then none
    else scaled significand (point + exponent)
  if p.negative then x.map Binary64.neg else x

/-- Digits of the exponent that are read before it is known to be out of range. -/
def exponentDigitsRead : Nat :=
  ((List.range p.exponent.length).find? fun n =>
    maxExponent < decimalValue (p.exponent.take n)).getD p.exponent.length

end NumberParts

/-- The digits in front, of which a number has at least one; a zero stands alone. -/
def wholeDigits (offset : Nat) (cs : List Char) : Except Fault (List Char) :=
  match cs.takeWhile Char.isDigit with
  | [] => .error (if cs.isEmpty then ⟨.endInValue, offset⟩ else ⟨.invalidNumber, offset + 1⟩)
  | '0' :: _ :: _ => .error ⟨.invalidNumber, offset + 2⟩
  | digits => .ok digits

/-- Digits that have to follow a mark. -/
def digitsAfter (offset : Nat) (cs : List Char) : Except Fault (List Char) :=
  match cs.takeWhile Char.isDigit with
  | [] => .error (if cs.isEmpty then ⟨.endInValue, offset⟩ else ⟨.invalidNumber, offset + 1⟩)
  | digits => .ok digits

/-- The digits after a point and how many characters they take with it. -/
def fractionPart (offset : Nat) : List Char → Except Fault (List Char × Nat)
  | '.' :: rest => do
    let digits ← digitsAfter (offset + 1) rest
    return (digits, digits.length + 1)
  | _ => .ok ([], 0)

/-- The sign and the digits of an exponent, and how many characters it takes. -/
def exponentPart (offset : Nat) : List Char → Except Fault (Bool × List Char × Nat)
  | [] => .ok (false, [], 0)
  | mark :: rest => do
    if mark != 'e' && mark != 'E' then return (false, [], 0)
    let (negative, sign, rest) := match rest with
      | '-' :: rest => (true, 1, rest)
      | '+' :: rest => (false, 1, rest)
      | rest => (false, 0, rest)
    let digits ← digitsAfter (offset + 1 + sign) rest
    return (negative, digits, digits.length + 1 + sign)

/-- Reads the number that a text starts with, and tells how many characters it takes. -/
def number (negative : Bool) (offset : Nat) (cs : List Char) : Except Fault (Value × Nat) := do
  let whole ← wholeDigits offset cs
  let taken := whole.length
  let (fraction, n) ← fractionPart (offset + taken) (cs.drop taken)
  let taken := taken + n
  let (negativeExponent, exponent, n) ← exponentPart (offset + taken) (cs.drop taken)
  let taken := taken + n
  let parts : NumberParts := ⟨negative, whole, fraction, negativeExponent, exponent⟩
  match parts.integer?, parts.float? with
  | some i, _ => return (.int i, taken)
  | none, some x => return (.float x, taken)
  | none, none =>
    throw ⟨.numberOutOfRange, offset + taken - exponent.length + parts.exponentDigitsRead⟩

end TemplateEngine.Json
