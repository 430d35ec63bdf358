import TemplateEngine.Text.Casing
import TemplateEngine.Value.Text
import TemplateEngine.Value.TypeFault

/-!
# Filters

The built-in filters and the names under which templates call them.
-/

namespace TemplateEngine

inductive Filter where
  | raw
  | html
  | upper
  | lower
  | length
deriving DecidableEq, Repr

namespace Filter

def ofName? : String → Option Filter
  | "raw" | "mark_raw" => some raw
  | "html" => some html
  | "uc" | "upper" => some upper
  | "lc" | "lower" => some lower
  | "length" | "size" => some length
  | _ => none

/-- The name in listings. -/
def label : Filter → String
  | raw => "Raw"
  | html => "Html"
  | upper => "Upper"
  | lower => "Lower"
  | length => "Length"

/-- In the order of the wire format. -/
def all : List Filter := [raw, html, upper, lower, length]

/-- The length of a text counts characters. -/
def lengthOf : Value → Except TypeFault Value
  | .list items => .ok (.ofNat items.length)
  | .map entries => .ok (.ofNat entries.length)
  | .str s | .raw s => .ok (.ofNat s.length)
  | .undef => .ok (.int 0)
  | other => .error (.noLength other.kind)

/-- `raw` marks the text as safe, `html` escapes it first. -/
def apply (filter : Filter) (value : Value) : Except TypeFault Value :=
  match filter with
  | raw => .ok (.raw value.display)
  | html => .ok (.raw (value.output true))
  | upper => .ok (.str (Text.upper value.display))
  | lower => .ok (.str (Text.lower value.display))
  | length => lengthOf value

theorem mem_all (filter : Filter) : filter ∈ all := by
  cases filter <;> decide

end Filter
end TemplateEngine
