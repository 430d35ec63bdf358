import TemplateEngine.Number.Binary64

/-!
# The nearest binary64 number of a decimal

A decimal `digits * 10 ^ exponent` is compared with the grid of representable
numbers in exact natural arithmetic. The quotient on the grid is rounded to the
nearer neighbour and, half way, to the even one; a result past the largest
finite number is the infinity.
-/

namespace TemplateEngine.Binary64

/-- Quotient rounded to the nearest natural number, a tie to the even one. -/
def roundedQuotient (numerator denominator : Nat) : Nat :=
  let whole := numerator / denominator
  let twice := 2 * (numerator % denominator)
  if twice < denominator then whole
  else if denominator < twice then whole + 1
  else if whole % 2 = 0 then whole else whole + 1

/-- A power of two as a pair of factors, for the numerator and the denominator. -/
def powerFactors (base : Nat) (exponent : Int) : Nat × Nat :=
  if exponent < 0 then (1, Nat.pow base exponent.natAbs) else (Nat.pow base exponent.natAbs, 1)

/-- The exponent of the grid on which a positive quotient has 53 bits, never
below that of the subnormal numbers. -/
def gridExponent (numerator denominator : Nat) : Int :=
  let guess : Int := (Nat.log2 numerator : Int) - Nat.log2 denominator - 52
  let (up, down) := powerFactors 2 guess
  -- The guess is at most one too large.
  let exponent := if numerator * down < denominator * up * Nat.pow 2 52 then guess - 1 else guess
  max exponent (-1074)

/-- The word of the nonnegative number nearest to a quotient. On the grid of
exponent `e` the word is the rounded significand plus `(e + 1074) * 2 ^ 52`,
also where rounding carries into the exponent. -/
def nearestWord (numerator denominator : Nat) : UInt64 :=
  if numerator = 0 then 0
  else
    let exponent := gridExponent numerator denominator
    let (up, down) := powerFactors 2 exponent
    let significand := roundedQuotient (numerator * down) (denominator * up)
    let word := significand + (exponent + 1074).toNat * Nat.pow 2 52
    if word < 0x7FF0000000000000 then UInt64.ofNat word else 0x7FF0000000000000

/-- The nearest number to `digits * 10 ^ exponent`, with the given sign. An
exponent beyond any finite result is not raised to a power. -/
def ofDecimal (negative : Bool) (digits : Nat) (exponent : Int) : Binary64 :=
  let word :=
    if digits = 0 then 0
    else if exponent > 310 then 0x7FF0000000000000
    else if exponent + (Nat.log2 digits / 3 + 1) < -330 then 0
    else
      let (up, down) := powerFactors 10 exponent
      nearestWord (digits * up) down
  if negative then ⟨word ||| 0x8000000000000000⟩ else ⟨word⟩

end TemplateEngine.Binary64
