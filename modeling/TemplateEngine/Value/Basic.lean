import TemplateEngine.Bindings
import TemplateEngine.Number.Binary64

/-!
# Values

A value is a scalar, a text, a collection or a reference to a macro. Text comes
in two kinds: `raw` text is safe for output and is never escaped again. A map
holds its entries in the order of their keys.
-/

namespace TemplateEngine

/-- A macro of a running program. A call looks names up from the frame
`closure`, in which the macro was defined. -/
structure MacroRef where
  /-- The identity of the program that defined the macro. -/
  program : Nat
  /-- The place in that program's macro table. -/
  index : Nat
  name : String
  closure : Nat
deriving DecidableEq

inductive Value where
  | undef
  | bool (b : Bool)
  | int (i : Int64)
  | float (x : Binary64)
  | str (s : String)
  | raw (s : String)
  | list (items : List Value)
  | map (entries : List (String × Value))
  | macroRef (ref : MacroRef)
deriving Inhabited

/-- Variables by name. -/
abbrev Vars := Bindings Value

inductive Kind where
  | undef
  | bool
  | int
  | float
  | str
  | raw
  | list
  | map
  | macroRef
deriving DecidableEq

/-- The word for a kind in messages. -/
def Kind.name : Kind → String
  | .undef => "undef"
  | .bool => "bool"
  | .int => "int"
  | .float => "float"
  | .str => "str"
  | .raw => "raw"
  | .list => "list"
  | .map => "map"
  | .macroRef => "macro"

namespace Value

def kind : Value → Kind
  | undef => .undef
  | bool _ => .bool
  | int _ => .int
  | float _ => .float
  | str _ => .str
  | raw _ => .raw
  | list _ => .list
  | map _ => .map
  | macroRef _ => .macroRef

/-- Empty text and the text `0` are false, and so are empty collections. -/
def isTruthy : Value → Bool
  | undef => false
  | bool b => b
  | int i => i != 0
  | float x => !x.isZero && !x.isNaN
  | str s | raw s => s != "" && s != "0"
  | list items => !items.isEmpty
  | map entries => !entries.isEmpty
  | macroRef _ => true

def isUndef : Value → Bool
  | undef => true
  | _ => false

/-- The text of a value of one of the two text kinds. -/
def text? : Value → Option String
  | str s | raw s => some s
  | _ => none

def int? : Value → Option Int64
  | int i => some i
  | _ => none

/-- An integer counted by a natural number. -/
def ofNat (n : Nat) : Value := int (Int64.ofNat n)

end Value
end TemplateEngine
