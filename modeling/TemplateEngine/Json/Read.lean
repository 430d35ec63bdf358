import TemplateEngine.Bindings
import TemplateEngine.Json.Token

/-!
# Reading values from JSON

The tokens of a text are taken one by one. What has been read is the value of
the whole text, or a stack of lists and objects that are not closed yet. Of the
entries of an object with the same key the last one counts.
-/

namespace TemplateEngine.Json

/-- A list or an object that is not closed yet. -/
inductive Frame where
  /-- The items so far, the last one first. -/
  | list (items : List Value)
  /-- The entries so far, and the key whose value is read. -/
  | object (entries : Bindings Value) (key : String)

/-- What may come next. -/
inductive Expected where
  | value
  /-- The first item of a list, or its end. -/
  | firstItem
  | nextItem
  /-- The first key of an object, or its end. -/
  | firstKey
  | nextKey
  | colon
  /-- A comma, or the end of what encloses the value just read. -/
  | separator
deriving DecidableEq

inductive State where
  | finished (v : Value)
  /-- The frames, innermost first. -/
  | within (stack : List Frame) (expected : Expected)

namespace State

def start : State := within [] .value

/-- The deepest nesting. -/
def maxDepth : Nat := 127

/-- A value has been read. -/
def complete (v : Value) : List Frame → State
  | [] => finished v
  | .list items :: outer => within (.list (v :: items) :: outer) .separator
  | .object entries key :: outer =>
    within (.object (Bindings.insert key v entries) key :: outer) .separator

/-- The value of a frame that ends. -/
def close : Frame → Value
  | .list items => .list items.reverse
  | .object entries _ => .map entries

/-- Goes on in a new frame. -/
def enter (offset : Nat) (stack : List Frame) (frame : Frame) (expected : Expected) :
    Except Fault State :=
  if stack.length < maxDepth then .ok (within (frame :: stack) expected)
  else .error ⟨.tooDeep, offset + 1⟩

/-- A token where a value may stand. -/
def readValue (offset : Nat) (stack : List Frame) : Token → Except Fault State
  | .string s => .ok (complete (.str s) stack)
  | .scalar v => .ok (complete v stack)
  | .listOpen => enter offset stack (.list []) .firstItem
  | .objectOpen => enter offset stack (.object [] "") .firstKey
  | .faultyString fault | .faulty fault => .error fault
  | .listClose | .objectClose | .colon | .comma => .error ⟨.expectedValue, offset + 1⟩

/-- A token where a key may stand. -/
def readKey (offset : Nat) (entries : Bindings Value) (outer : List Frame) :
    Token → Except Fault State
  | .string key => .ok (within (.object entries key :: outer) .colon)
  | .faultyString fault => .error fault
  | _ => .error ⟨.keyNotString, offset + 1⟩

/-- Takes the token at an offset. -/
def step (s : State) (offset : Nat) (token : Token) : Except Fault State :=
  match s, token with
  | finished _, _ => .error ⟨.trailingText, offset + 1⟩
  | within (frame :: outer) .firstItem, .listClose => .ok (complete (close frame) outer)
  | within _ .nextItem, .listClose => .error ⟨.trailingComma, offset + 1⟩
  | within stack .value, token | within stack .firstItem, token | within stack .nextItem, token =>
    readValue offset stack token
  | within (frame :: outer) .firstKey, .objectClose => .ok (complete (close frame) outer)
  | within _ .nextKey, .objectClose => .error ⟨.trailingComma, offset + 1⟩
  | within (.object entries _ :: outer) .firstKey, token
  | within (.object entries _ :: outer) .nextKey, token => readKey offset entries outer token
  | within stack .colon, .colon => .ok (within stack .value)
  | within (.list items :: outer) .separator, .comma => .ok (within (.list items :: outer) .nextItem)
  | within (.object entries key :: outer) .separator, .comma =>
    .ok (within (.object entries key :: outer) .nextKey)
  | within (.list items :: outer) .separator, .listClose =>
    .ok (complete (close (.list items)) outer)
  | within (.object entries key :: outer) .separator, .objectClose =>
    .ok (complete (close (.object entries key)) outer)
  | within (.list _ :: _) .separator, _ => .error ⟨.expectedListEnd, offset + 1⟩
  | within (.object _ _ :: _) .separator, _ => .error ⟨.expectedObjectEnd, offset + 1⟩
  | within _ .colon, _ => .error ⟨.expectedColon, offset + 1⟩
  | within _ _, _ => .error ⟨.expectedValue, offset + 1⟩

/-- What is wrong if the text ends. -/
def missing (stack : List Frame) : Expected → Problem
  | .value | .nextItem | .nextKey => .endInValue
  | .firstItem => .endInList
  | .firstKey | .colon => .endInObject
  | .separator =>
    match stack with
    | .object _ _ :: _ => .endInObject
    | _ => .endInList

/-- The value of a text that ends at an offset. -/
def finish (offset : Nat) : State → Except Fault Value
  | finished v => .ok v
  | within stack expected => .error ⟨missing stack expected, offset⟩

end State

/-- The value of a JSON text. -/
def read (source : String) : Except Fault Value := do
  let cs := source.toList
  let s ← (tokens 0 cs).foldlM (fun s (offset, token) => s.step offset token) State.start
  s.finish (utf8Length cs)

end TemplateEngine.Json
