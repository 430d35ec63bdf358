import TemplateEngine.Value.Basic

/-!
# Equality and order of values

Numbers are compared numerically across the two number kinds, texts across the
two text kinds, collections entry by entry. Values of unrelated kinds are never
equal, and only numbers and texts are ordered.
-/

namespace TemplateEngine.Value

mutual

def looseEq : Value → Value → Bool
  | undef, undef => true
  | bool a, bool b => a == b
  | int a, int b => a == b
  | int a, float b => (Binary64.ofInt64 a).numericEq b
  | float a, int b => a.numericEq (Binary64.ofInt64 b)
  | float a, float b => a.numericEq b
  | str a, str b => a == b
  | str a, raw b => a == b
  | raw a, str b => a == b
  | raw a, raw b => a == b
  | list a, list b => looseEqItems a b
  | map a, map b => looseEqEntries a b
  | macroRef a, macroRef b => a == b
  | _, _ => false

def looseEqItems : List Value → List Value → Bool
  | [], [] => true
  | x :: xs, y :: ys => looseEq x y && looseEqItems xs ys
  | _, _ => false

def looseEqEntries : List (String × Value) → List (String × Value) → Bool
  | [], [] => true
  | (k, x) :: xs, (l, y) :: ys => k == l && looseEq x y && looseEqEntries xs ys
  | _, _ => false

end

/-- Loose equality that tells safe text from plain text, at the top only. -/
def strictEq : Value → Value → Bool
  | str _, raw _ => false
  | raw _, str _ => false
  | a, b => looseEq a b

def looseCompare? : Value → Value → Option Ordering
  | int a, int b => some (compare a.toInt b.toInt)
  | int a, float b => (Binary64.ofInt64 a).compare? b
  | float a, int b => a.compare? (Binary64.ofInt64 b)
  | float a, float b => a.compare? b
  | str a, str b => some (compare a b)
  | str a, raw b => some (compare a b)
  | raw a, str b => some (compare a b)
  | raw a, raw b => some (compare a b)
  | _, _ => none

end TemplateEngine.Value
