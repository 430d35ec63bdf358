import TemplateEngine.Machine.Basic

/-!
# The meaning of templates

Templates have a meaning apart from programs: a tree is interpreted as it
stands, with the scopes, values and bounds of the machine but without
instructions, jumps and an evaluation stack. Errors have no position and are
raised at instruction 0.

The recursion is on the tree. What is not a part of the tree, the body of a
called macro and an included template, is interpreted with less fuel, and fuel
also bounds the rounds of one `WHILE` block; without fuel there is no result.
-/

namespace TemplateEngine

/-- A template that compiles, with the identity that its macros carry. -/
structure CompiledTemplate where
  id : Nat
  options : CompileOptions
  /-- The text that its spans refer to. -/
  text : String
  template : Template
  program : Program
  compiles : template.compile options text = .ok program

/-- Finds templates by name, in surroundings `ω`. -/
abbrev TemplateLibrary (ω : Type) := String → ω → Except Error CompiledTemplate × ω

namespace CompiledTemplate

def loaded (t : CompiledTemplate) : Loaded := ⟨t.id, t.program⟩

end CompiledTemplate

/-- The programs of a library, for the machine. -/
def TemplateLibrary.programs {ω : Type} (library : TemplateLibrary ω) : TemplateSource ω :=
  fun name surroundings =>
    ((library name surroundings).1.map CompiledTemplate.loaded, (library name surroundings).2)

/-- A macro with its body. -/
structure Routine where
  name : String
  params : List String
  /-- The number of the first macro that the body defines. -/
  first : Nat
  body : List Node

mutual

/-- The macros that a node defines, in the order of their tags, where the first
one has the number `first`. -/
def Node.routines (first : Nat) : Node → List Routine
  | .text _ | .print _ | .assign _ _ | .inclusion _ _ => []
  | .branch _ body rest =>
    let inner := Node.routinesOfList first body
    inner ++ Node.routinesOfRest (first + inner.length) rest
  | .foreach _ _ body | .loop _ body => Node.routinesOfList first body
  | .define name params body =>
    ⟨name, params.map Prod.fst, first + 1, body⟩ :: Node.routinesOfList (first + 1) body

def Node.routinesOfRest (first : Nat) : Alternatives → List Routine
  | .done => []
  | .otherwise body => Node.routinesOfList first body
  | .elsif _ body rest =>
    let inner := Node.routinesOfList first body
    inner ++ Node.routinesOfRest (first + inner.length) rest

def Node.routinesOfList (first : Nat) : List Node → List Routine
  | [] => []
  | node :: rest =>
    let inner := Node.routines first node
    inner ++ Node.routinesOfList (first + inner.length) rest

end

/-- The macros of a template by their numbers. -/
def Template.routines (t : Template) : List Routine := Node.routinesOfList 0 t.body

namespace Meaning

variable {ω α β : Type}

structure State (ω : Type) where
  scope : Scope
  /-- What the macro calls in progress have written, innermost call first, each
  with its latest text first. -/
  captures : List (List String)
  /-- What the sink has taken, latest first. -/
  accepted : List String
  surroundings : ω

/-- An action on the state, which may end in an error; `none` without fuel. -/
def Action (ω α : Type) := State ω → Option (Except RuntimeError α × State ω)

instance : Monad (Action ω) where
  pure a := fun s => some (.ok a, s)
  bind x f := fun s =>
    match x s with
    | none => none
    | some (.ok a, s) => f a s
    | some (.error e, s) => some (.error e, s)

namespace Action

def outOfFuel : Action ω α := fun _ => none

def fail (e : RuntimeError) : Action ω α := fun s => some (.error e, s)

def ofFault : Except TypeFault α → Action ω α
  | .ok a => pure a
  | .error fault => fail (.type 0 fault)

def inspect (f : State ω → α) : Action ω α := fun s => some (.ok (f s), s)

theorem inspect_bind (f : State ω → α) (next : α → Action ω β) (s : State ω) :
    (inspect f >>= next) s = next (f s) s := rfl

def modify (f : State ω → State ω) : Action ω Unit := fun s => some (.ok (), f s)

def onScope (f : Scope → Scope) : Action ω Unit := modify fun s => { s with scope := f s.scope }

def bindVar (name : String) (value : Value) : Action ω Unit := onScope (·.bind name value)

def lookup (strict : Bool) (name : String) : Action ω Value := do
  match ← inspect (·.scope.lookup name) with
  | some value => return value
  | none => if strict then fail (.unbound 0 name) else return (.undef)

/-- Gives a text to the innermost macro call, or to the sink. -/
def write (sink : Sink) (text : String) : Action ω Unit := fun s =>
  match s.captures with
  | texts :: rest => some (.ok (), { s with captures := (text :: texts) :: rest })
  | [] =>
    match sink s.accepted text with
    | some reason => some (.error (.output reason), s)
    | none => some (.ok (), { s with accepted := text :: s.accepted })

/-- Drops the frames above a depth. -/
def dropTo (depth : Nat) : Action ω Unit := onScope (·.truncate depth)

/-- Ends the innermost capture and gives its text. -/
def endCapture : Action ω Value := fun s =>
  some (.ok (.raw (String.join (s.captures.headD []).reverse)), { s with captures := s.captures.tail })

/-- Runs the body of a macro in a new frame under the one of number `closure`;
what it writes is one safe text. -/
def inMacro (closure : Nat) (args : List (String × Value)) (body : Action ω Unit) :
    Action ω Value := do
  let depth ← inspect (·.scope.depth)
  match ← inspect (·.scope.pushWithParent closure) with
  | .error _ => fail (.type 0 .scopeEnded)
  | .ok scope =>
    modify fun s => { s with
      scope := args.foldl (fun s arg => s.bind arg.1 arg.2) scope
      captures := [] :: s.captures }
    body
    dropTo depth
    endCapture

/-- Runs a template included as `name` in a scope of its own. -/
def inTemplate (name : String) (vars : Vars) (body : Action ω Unit) : Action ω Unit := fun s =>
  (body { s with scope := .ofVars vars }).map fun (result, s') =>
    (result.mapError (·.around name), { s' with scope := s.scope })

/-- Runs a body for each item, with the item and the `loop` map bound. -/
def forItems (var : String) (size : Nat) (body : Action ω Unit) : Nat → List Value → Action ω Unit
  | _, [] => pure ()
  | place, item :: rest => do
    bindVar var item
    bindVar "loop" (Level.loopInfo place size)
    body
    forItems var size body (place + 1) rest

/-- Runs a body as long as a test is true before it. -/
def whileTrue (test : Action ω Value) (body : Action ω Unit) : Nat → Action ω Unit
  | 0 => outOfFuel
  | fuel + 1 => do
    let value ← test
    if value.isTruthy then
      body
      whileTrue test body fuel

end Action

open TemplateEngine.Meaning.Action

/-- What the meaning of a tree depends on. -/
structure Interpreter (ω : Type) where
  /-- The identity of the template. -/
  id : Nat
  escape : Bool
  strict : Bool
  sink : Sink
  call : Value → List Value → Action ω Value
  inclusion : String → Vars → Action ω Unit
  /-- Bounds the rounds of a `WHILE` block. -/
  rounds : Nat

variable (i : Interpreter ω)

mutual

def eval : Expr → Action ω Value
  | .literal l => pure l.toValue
  | .list items => do return .list (← evalList items)
  | .var name => lookup i.strict name
  | .attr object field => do
    let container ← eval object
    ofFault (container.field field)
  | .index collection key => do
    let container ← eval collection
    let key ← eval key
    ofFault (container.index key)
  | .call function args => do
    let callee ← eval function
    let args ← evalList args
    i.call callee args
  | .filter operand name _ => do
    let value ← eval operand
    match Filter.ofName? name with
    | some filter => ofFault (filter.apply value)
    | none => outOfFuel
  | .unary .neg operand => do
    let value ← eval operand
    ofFault value.negate
  | .unary .not operand => do
    let value ← eval operand
    return .bool !value.isTruthy
  | .binary op left right => do
    let first ← eval left
    let second ← eval right
    ofFault (first.binary op second)
  | .logic .and left right => do
    let value ← eval left
    if value.isTruthy then eval right else return value
  | .logic .or left right => do
    let value ← eval left
    if value.isTruthy then return value else eval right

def evalList : List Expr → Action ω (List Value)
  | [] => pure []
  | e :: rest => do
    let value ← eval e
    let values ← evalList rest
    return value :: values

end

def evalArgs : List (String × Expr) → Action ω (List (String × Value))
  | [] => pure []
  | (key, e) :: rest => do
    let value ← eval i e
    let values ← evalArgs rest
    return (key, value) :: values

mutual

/-- Runs a node whose first macro has the number `first`. -/
def exec (first : Nat) : Node → Action ω Unit
  | .text s => if s = "" then pure () else write i.sink s
  | .print e => do
    let value ← eval i e
    write i.sink (value.output i.escape)
  | .branch test body rest => do
    let value ← eval i test
    if value.isTruthy then execList first body
    else execRest (first + (Node.routinesOfList first body).length) rest
  | .foreach var iterable body => do
    let value ← eval i iterable
    match Level.loopItems value with
    | .error fault => fail (.iteration 0 fault)
    | .ok items =>
      let depth ← inspect (·.scope.depth)
      onScope Scope.pushChild
      forItems var items.length (execList first body) 0 items
      dropTo depth
  | .loop test body => whileTrue (eval i test) (execList first body) i.rounds
  | .assign name value => do
    let value ← eval i value
    bindVar name value
  | .define name _ _ => do
    let closure ← inspect (·.scope.current)
    bindVar name (.macroRef ⟨i.id, first, name, closure⟩)
  | .inclusion template args => do
    let name ← eval i template
    let args ← evalArgs i args
    i.inclusion name.display (Bindings.ofList args)

def execRest (first : Nat) : Alternatives → Action ω Unit
  | .done => pure ()
  | .otherwise body => execList first body
  | .elsif test body rest => do
    let value ← eval i test
    if value.isTruthy then execList first body
    else execRest (first + (Node.routinesOfList first body).length) rest

def execList (first : Nat) : List Node → Action ω Unit
  | [] => pure ()
  | node :: rest => do
    exec first node
    execList (first + (Node.routines first node).length) rest

end

/-- What interpreting is given and does not change. -/
structure Setting (ω : Type) where
  options : ExecutionOptions
  library : Option (TemplateLibrary ω)
  sink : Sink

/-- The surroundings of the machine with the same programs, bounds and sink. -/
def Setting.environment (setting : Setting ω) : Environment ω where
  options := setting.options
  source := setting.library.map TemplateLibrary.programs
  sink := setting.sink

/-- The template that runs, with the macro calls and inclusions around it. -/
structure Place where
  current : CompiledTemplate
  depth : Nat
  includeDepth : Nat

/-- Interprets the nodes of a body, given the number of its first macro. -/
abbrev BodyAction (ω : Type) := Place → Nat → List Node → Action ω Unit

variable (setting : Setting ω) (run : BodyAction ω)

/-- A call from some place. -/
def call (place : Place) (callee : Value) (args : List Value) : Action ω Value :=
  match callee with
  | .macroRef ref =>
    if ref.program ≠ place.current.id then fail (.type 0 (.foreignMacro ref.name))
    else
      match place.current.template.routines[ref.index]? with
      | none => fail (.malformed 0 (.operand .callee))
      | some r =>
        if args.length ≠ r.params.length then
          fail (.arity 0 r.name r.params.length args.length)
        else if setting.options.maxDepth < place.depth + 1 then
          fail (.limit (.callDepth (place.depth + 1) setting.options.maxDepth))
        else
          inMacro ref.closure (r.params.zip args)
            (run { place with depth := place.depth + 1 } r.first r.body)
  | other => fail (.type 0 (.notCallable other.kind))

/-- An inclusion from some place. -/
def inclusion (place : Place) (name : String) (args : Vars) : Action ω Unit :=
  match setting.library with
  | none => fail (.noLoader name)
  | some library =>
    if setting.options.maxDepth < place.depth + 1 then
      fail (.limit (.callDepth (place.depth + 1) setting.options.maxDepth))
    else if setting.options.maxIncludeDepth < place.includeDepth + 1 then
      fail (.limit (.includeDepth (place.includeDepth + 1) setting.options.maxIncludeDepth))
    else do
      let vars ← inspect fun s => Bindings.insertAll s.scope.visible args
      let found ← inspect fun s => library name s.surroundings
      modify fun s => { s with surroundings := found.2 }
      match found.1 with
      | .error e => fail (.included name e)
      | .ok t =>
        inTemplate name vars
          (run ⟨t, place.depth + 1, place.includeDepth + 1⟩ 0 t.template.body)

def interpreter (rounds : Nat) (place : Place) : Interpreter ω where
  id := place.current.id
  escape := place.current.options.autoEscape
  strict := setting.options.strictVariables
  sink := setting.sink
  call := call setting run place
  inclusion := inclusion setting run place
  rounds := rounds

/-- The meaning of a body. -/
def interpret : Nat → BodyAction ω
  | 0, _, _, _ => outOfFuel
  | fuel + 1, place, first, body =>
    execList (interpreter setting (interpret fuel) (fuel + 1) place) first body

end Meaning
end TemplateEngine
