import TemplateEngine.Number.Shortest
import TemplateEngine.Text.Html
import TemplateEngine.Text.Quoted
import TemplateEngine.Value.Basic

/-!
# The text of a value

Output and concatenation use `display`: texts stand for themselves, lists are
written in brackets and maps in braces, and the undefined value leaves nothing.
Dumps use `dump`, in which texts are quoted and safe text is marked.
-/

namespace TemplateEngine.Value

def ofBool (b : Bool) : String := if b then "true" else "false"

mutual

def display : Value → String
  | undef => ""
  | bool b => ofBool b
  | int i => toString i.toInt
  | float x => x.format Binary64.plain
  | str s | raw s => s
  | list items => "[" ++ ", ".intercalate (displayItems items) ++ "]"
  | map entries => "\x7b" ++ ", ".intercalate (displayEntries entries) ++ "\x7d"
  | macroRef ref => "<macro " ++ ref.name ++ ">"

def displayItems : List Value → List String
  | [] => []
  | item :: rest => display item :: displayItems rest

def displayEntries : List (String × Value) → List String
  | [] => []
  | (key, value) :: rest => (key ++ ": " ++ display value) :: displayEntries rest

end

mutual

def dump : Value → String
  | undef => "undef"
  | bool b => ofBool b
  | int i => toString i.toInt
  | float x => x.format Binary64.plain
  | str s => Text.quotedDump s
  | raw s => "raw" ++ Text.quotedDump s
  | list items => "[" ++ ", ".intercalate (dumpItems items) ++ "]"
  | map entries => "\x7b" ++ ", ".intercalate (dumpEntries entries) ++ "\x7d"
  | macroRef ref => "<macro " ++ ref.name ++ ">"

def dumpItems : List Value → List String
  | [] => []
  | item :: rest => dump item :: dumpItems rest

def dumpEntries : List (String × Value) → List String
  | [] => []
  | (key, value) :: rest => (Text.quoted key ++ ": " ++ dump value) :: dumpEntries rest

end

/-- What printing a value writes: safe text as it is, any other text escaped if
asked for. -/
def output (escape : Bool) : Value → String
  | raw s => s
  | value => if escape then Text.escapeHtml value.display else value.display

@[simp] theorem output_raw (escape : Bool) (s : String) : (raw s).output escape = s := rfl

@[simp] theorem display_undef : display undef = "" := rfl

end TemplateEngine.Value
