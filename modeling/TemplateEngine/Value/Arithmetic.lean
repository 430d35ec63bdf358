import TemplateEngine.Value.Compare
import TemplateEngine.Value.Text
import TemplateEngine.Value.TypeFault

/-!
# Operators on values

Integer arithmetic wraps around at 64 bits. A quotient of integers is an integer
iff it is exact, else a float. Concatenation takes the text of both sides.
-/

namespace TemplateEngine.Value

/-- The number as a float, if it is one of the two number kinds. -/
def number? : Value → Option Binary64
  | int i => some (.ofInt64 i)
  | float x => some x
  | _ => none

def divideInts (a b : Int64) : Except TypeFault Value :=
  if b = 0 then .error .divisionByZero
  else if a % b = 0 then .ok (int (a / b))
  else .ok (float ((Binary64.ofInt64 a).div (.ofInt64 b)))

def remainderInts (a b : Int64) : Except TypeFault Value :=
  if b = 0 then .error .divisionByZero else .ok (int (a % b))

def divideFloats (x y : Binary64) : Except TypeFault Value :=
  if y.isZero then .error .divisionByZero else .ok (float (x.div y))

/-- An arithmetic operator from its meanings on integers and on floats. -/
def arithmetic (op : BinaryOp) (onInts : Int64 → Int64 → Except TypeFault Value)
    (onFloats : Binary64 → Binary64 → Except TypeFault Value) (left right : Value) :
    Except TypeFault Value :=
  match left, right with
  | int a, int b => onInts a b
  | _, _ =>
    match left.number?, right.number? with
    | some x, some y => onFloats x y
    | _, _ => .error (.unsupportedOperands op left.kind right.kind)

def ordered (op : BinaryOp) (test : Ordering → Bool) (left right : Value) :
    Except TypeFault Value :=
  match left.looseCompare? right with
  | some ordering => .ok (bool (test ordering))
  | none => .error (.incomparable op left.kind right.kind)

def binary (op : BinaryOp) (left right : Value) : Except TypeFault Value :=
  match op with
  | .add => arithmetic op (fun a b => .ok (int (a + b))) (fun x y => .ok (float (x.add y))) left right
  | .sub => arithmetic op (fun a b => .ok (int (a - b))) (fun x y => .ok (float (x.sub y))) left right
  | .mul => arithmetic op (fun a b => .ok (int (a * b))) (fun x y => .ok (float (x.mul y))) left right
  | .div => arithmetic op divideInts divideFloats left right
  | .mod => arithmetic op remainderInts (fun _ _ => .error .remainderOfFloats) left right
  | .concat => .ok (str (left.display ++ right.display))
  | .eq => .ok (bool (left.looseEq right))
  | .ne => .ok (bool (!left.looseEq right))
  | .lt => ordered op (· == .lt) left right
  | .le => ordered op (· != .gt) left right
  | .gt => ordered op (· == .gt) left right
  | .ge => ordered op (· != .lt) left right

def negate : Value → Except TypeFault Value
  | int i => .ok (int (-i))
  | float x => .ok (float x.neg)
  | value => .error (.notNegatable value.kind)

end TemplateEngine.Value
