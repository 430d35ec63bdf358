import TemplateEngine.Number.Rounding

/-!
# The fewest decimal digits that read back

The reals that round to a binary64 number form an interval around it, closed
iff its significand is even. For one, two, … seventeen digits the two decimals
of that length next to the number are tried; the first length with one of them
in the interval is used, the nearer of two is taken, and of two equally near
ones the larger.
-/

namespace TemplateEngine.Binary64

/-- The decimal `digits * 10 ^ exponent`. -/
structure Decimal where
  digits : Nat
  exponent : Int
deriving DecidableEq

/-- The interval of the reals that round to a number, over a common
denominator: lower end, value and upper end, and whether the ends belong. -/
structure RoundingInterval where
  lower : Nat
  value : Nat
  upper : Nat
  denominator : Nat
  closed : Bool

/-- Below a power of two the neighbour is half as far as above it. -/
def roundingInterval (x : Binary64) : RoundingInterval :=
  let m := x.significand
  let (up, down) := powerFactors 2 (x.scale - 2)
  let below := if x.fraction = 0 ∧ x.exponentField ≠ 0 then 1 else 2
  { lower := (4 * m - below) * up
    value := 4 * m * up
    upper := (4 * m + 2) * up
    denominator := down
    closed := m % 2 == 0 }

namespace RoundingInterval

/-- Whether the decimal of the grid `10 ^ exponent` lies in the interval. -/
def contains (r : RoundingInterval) (digits : Nat) (exponent : Int) : Bool :=
  let (up, down) := powerFactors 10 exponent
  let point := digits * up * r.denominator
  if r.closed then r.lower * down ≤ point && point ≤ r.upper * down
  else r.lower * down < point && point < r.upper * down

/-- The decimal of the grid nearest to the value, if one reads back. -/
def onGrid? (r : RoundingInterval) (exponent : Int) : Option Nat :=
  let (up, down) := powerFactors 10 exponent
  let unit := up * r.denominator
  let below := r.value * down / unit
  let rest := r.value * down % unit
  match r.contains below exponent, r.contains (below + 1) exponent with
  | true, true => some (if 2 * rest < unit then below else below + 1)
  | true, false => some below
  | false, true => some (below + 1)
  | false, false => none

/-- Tries ever finer grids; `tries` bounds their number. -/
def firstHit (r : RoundingInterval) : Nat → Int → Decimal
  | 0, exponent => ⟨r.value / r.denominator, exponent⟩
  | tries + 1, exponent =>
    match r.onGrid? exponent with
    | some digits => ⟨digits, exponent⟩
    | none => firstHit r tries (exponent - 1)

end RoundingInterval

/-- Moves trailing zeros of the digits into the exponent. -/
def Decimal.normalize (fuel : Nat) (d : Decimal) : Decimal :=
  match fuel with
  | 0 => d
  | fuel + 1 =>
    if d.digits ≠ 0 ∧ d.digits % 10 = 0 then
      Decimal.normalize fuel ⟨d.digits / 10, d.exponent + 1⟩
    else d

/-- The exponent of the leading decimal digit, at most one too large. -/
def decimalExponent (x : Binary64) : Int :=
  ((Nat.log2 x.significand : Int) + x.scale) * 30103 / 100000 + 1

/-- The shortest decimal of a finite nonzero number's magnitude. -/
def shortest (x : Binary64) : Decimal :=
  (x.roundingInterval.firstHit 20 x.decimalExponent).normalize 20

/-- The digits of a number, most significant first. -/
def digitChars (n : Nat) : List Char := Nat.toDigits 10 n

/-- Positional text of a decimal: no exponent, no fraction unless needed. -/
def Decimal.positional (d : Decimal) : List Char :=
  let digits := digitChars d.digits
  if d.exponent ≥ 0 then digits ++ List.replicate d.exponent.toNat '0'
  else
    let places := d.exponent.natAbs
    if digits.length ≤ places then
      '0' :: '.' :: (List.replicate (places - digits.length) '0' ++ digits)
    else
      digits.take (digits.length - places) ++ '.' :: digits.drop (digits.length - places)

/-- Scientific text of a decimal: one digit, the others after a point, and the
exponent without sign or padding unless it is negative. -/
def Decimal.scientific (d : Decimal) : List Char :=
  match digitChars d.digits with
  | [] => []
  | lead :: rest =>
    let exponent : Int := d.exponent + rest.length
    let tail := if rest.isEmpty then [] else '.' :: rest
    let sign := if exponent < 0 then ['-'] else []
    lead :: tail ++ 'e' :: sign ++ digitChars exponent.natAbs

/-- How a finite magnitude is laid out, and the words for the rest. -/
structure Layout where
  nan : String
  /-- Text of the magnitude zero. -/
  zero : String
  finite : Decimal → List Char

def format (layout : Layout) (x : Binary64) : String :=
  if x.isNaN then layout.nan
  else
    let magnitude :=
      if x.isInfinite then "inf"
      else if x.isZero then layout.zero
      else String.ofList (layout.finite x.shortest)
    if x.isNegative then "-" ++ magnitude else magnitude

/-- Values are printed positionally at any size. -/
def plain : Layout where
  nan := "nan"
  zero := "0"
  finite := Decimal.positional

/-- Listings tell floats from integers: a number from `10 ^ 16` up or below
`10 ^ -4` has an exponent, any other a decimal point. -/
def marked : Layout where
  nan := "NaN"
  zero := "0.0"
  finite d :=
    let lead : Int := d.exponent + (digitChars d.digits).length - 1
    if lead ≥ 16 ∨ lead < -4 then d.scientific
    else if d.exponent ≥ 0 then d.positional ++ ['.', '0']
    else d.positional

end TemplateEngine.Binary64
