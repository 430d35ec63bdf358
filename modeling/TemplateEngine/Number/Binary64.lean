/-!
# Binary64 numbers by their bit pattern

A number is its 64-bit word, so two numbers are the same value of the type iff
they have the same bits; numeric comparison, in which a NaN differs from itself
and the two zeros agree, is a separate function. Arithmetic is that of the
machine on the same words.
-/

namespace TemplateEngine

/-- A binary64 word: sign bit, 11 exponent bits, 52 fraction bits. -/
structure Binary64 where
  bits : UInt64
deriving DecidableEq, Inhabited

namespace Binary64

def toFloat (x : Binary64) : Float := Float.ofBits x.bits

def ofFloat (x : Float) : Binary64 := ⟨x.toBits⟩

def ofInt64 (i : Int64) : Binary64 := ofFloat i.toFloat

/-- The infinity of the given sign. -/
def infinity (negative : Bool) : Binary64 :=
  ⟨if negative then 0xFFF0000000000000 else 0x7FF0000000000000⟩

def nan : Binary64 := ⟨0x7FF8000000000000⟩

def isNegative (x : Binary64) : Bool := x.bits >>> 63 == 1

def exponentField (x : Binary64) : Nat := x.bits.toNat / Nat.pow 2 52 % Nat.pow 2 11

def fraction (x : Binary64) : Nat := x.bits.toNat % Nat.pow 2 52

def isNaN (x : Binary64) : Bool := x.exponentField == 2047 && x.fraction != 0

def isInfinite (x : Binary64) : Bool := x.exponentField == 2047 && x.fraction == 0

def isZero (x : Binary64) : Bool := x.exponentField == 0 && x.fraction == 0

/-- Flips the sign bit, also of a zero or a NaN. -/
def neg (x : Binary64) : Binary64 := ⟨x.bits ^^^ 0x8000000000000000⟩

def add (x y : Binary64) : Binary64 := ofFloat (x.toFloat + y.toFloat)

def sub (x y : Binary64) : Binary64 := ofFloat (x.toFloat - y.toFloat)

def mul (x y : Binary64) : Binary64 := ofFloat (x.toFloat * y.toFloat)

def div (x y : Binary64) : Binary64 := ofFloat (x.toFloat / y.toFloat)

/-- Numeric order; `none` if a NaN takes part. -/
def compare? (x y : Binary64) : Option Ordering :=
  if x.isNaN || y.isNaN then none
  else if x.toFloat < y.toFloat then some .lt
  else if y.toFloat < x.toFloat then some .gt
  else some .eq

/-- Numeric equality: a NaN equals nothing, the two zeros are equal. -/
def numericEq (x y : Binary64) : Bool := x.compare? y == some .eq

/-- The magnitude of a finite number is `significand * 2 ^ scale`. -/
def significand (x : Binary64) : Nat :=
  if x.exponentField = 0 then x.fraction else Nat.pow 2 52 + x.fraction

def scale (x : Binary64) : Int :=
  if x.exponentField = 0 then -1074 else (x.exponentField : Int) - 1075

end Binary64
end TemplateEngine
