import TemplateEngine.Value.Text
import TemplateEngine.Value.TypeFault

/-!
# Fields and items of values

A missing key, an index out of range and any access to the undefined value give
the undefined value; access to a scalar is a fault. A negative index counts from
the end of the list.
-/

namespace TemplateEngine.Value

/-- A decimal that fits 64 bits, with an optional plus sign. -/
def position? (field : String) : Option Nat :=
  let digits := match field.toList with
    | '+' :: rest => rest
    | cs => cs
  if digits.isEmpty || !digits.all Char.isDigit then none
  else
    let n := digits.foldl (fun acc c => acc * 10 + (c.toNat - '0'.toNat)) 0
    if n < Nat.pow 2 64 then some n else none

def field (container : Value) (name : String) : Except TypeFault Value :=
  match container with
  | map entries => .ok ((Bindings.get? name entries).getD undef)
  | undef => .ok undef
  | list items =>
    match position? name with
    | some i => .ok (items[i]?.getD undef)
    | none => .error (.noSuchItem name)
  | other => .error (.noFields name other.kind)

/-- The item at an index, counted from the end if it is negative. -/
def itemAt (items : List Value) (i : Int64) : Value :=
  let place := if i.toInt < 0 then i.toInt + items.length else i.toInt
  if place < 0 then undef else items[place.toNat]?.getD undef

def index (container key : Value) : Except TypeFault Value :=
  match container, key with
  | undef, _ => .ok undef
  | map entries, _ => .ok ((Bindings.get? key.display entries).getD undef)
  | list items, int i => .ok (itemAt items i)
  | list _, other => .error (.indexNotInt other.kind)
  | other, _ => .error (.notIndexable other.kind)

end TemplateEngine.Value
