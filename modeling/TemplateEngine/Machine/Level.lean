import TemplateEngine.Error
import TemplateEngine.Program.Basic
import TemplateEngine.Scope
import TemplateEngine.Value.Access
import TemplateEngine.Value.Arithmetic

/-!
# One running program

A level is the state of one program that runs: the instruction it is at, its
scope, its evaluation stack and the macro calls in progress. Executing an
instruction changes the level alone; output and inclusions are left to the
machine around it, as are all errors, which come with the level they occurred
in.
-/

namespace TemplateEngine

structure ExecutionOptions where
  /-- Bound on nested macro calls and inclusions together. -/
  maxDepth : Nat := 1000
  /-- Bound on nested inclusions alone. -/
  maxIncludeDepth : Nat := 64
  /-- Bound on the instructions of a run, inclusions counted in. -/
  maxSteps : Option Nat := none
  /-- Whether looking up an unbound variable is an error. -/
  strictVariables : Bool := true
deriving DecidableEq

/-- A macro call in progress. -/
structure Call where
  returnTo : Nat
  /-- The depth of the scope before the frame of the call. -/
  scopeDepth : Nat
  /-- What the macro has written, latest first. -/
  captured : List String

structure Level where
  loaded : Loaded
  ip : Nat
  scope : Scope
  /-- Top first. -/
  stack : List Value
  /-- Innermost first. -/
  calls : List Call
  /-- Bytes written past all calls of this level. -/
  written : Nat
  /-- Macro calls and inclusions around this level. -/
  outerDepth : Nat

/-- What an instruction asks for. -/
inductive Effect where
  /-- To go on. -/
  | next (level : Level)
  /-- To write a text and then go on after the instruction. -/
  | write (text : String) (level : Level)
  /-- To run another template and then go on after the instruction. -/
  | enter (name : String) (args : Value) (level : Level)
  | finish (level : Level)
  | fail (e : RuntimeError) (level : Level)

namespace Level

/-- A program before its first instruction. -/
def start (loaded : Loaded) (vars : Vars) (outerDepth : Nat) : Level where
  loaded := loaded
  ip := 0
  scope := .ofVars vars
  stack := []
  calls := []
  written := 0
  outerDepth := outerDepth

def advance (l : Level) : Level := { l with ip := l.ip + 1 }

def jump (l : Level) (target : Nat) : Level := { l with ip := target }

def push (l : Level) (value : Value) : Level := { l with stack := value :: l.stack }

/-- Macro calls and inclusions around the current instruction. -/
def depth (l : Level) : Nat := l.calls.length + l.outerDepth

/-- The current instruction with its operands. -/
def fetch (l : Level) : Except ProgramDefect Program.Resolved :=
  match l.loaded.program.instructions[l.ip]? with
  | none => .error .pointerOutOfRange
  | some instruction =>
    match l.loaded.program.resolve instruction with
    | .error fault => .error (.operand fault)
    | .ok op => .ok op

def defect (l : Level) (d : ProgramDefect) : Effect := .fail (.malformed l.ip d) l

def typeFault (l : Level) (fault : TypeFault) : Effect := .fail (.type l.ip fault) l

/-- Goes on with a value pushed. -/
def yield (l : Level) (value : Value) : Effect := .next (l.push value).advance

/-- Goes on with the result of an operation. -/
def finishWith (l : Level) : Except TypeFault Value → Effect
  | .ok value => l.yield value
  | .error fault => l.typeFault fault

/-- Takes one value off the stack. -/
def pop1 (l : Level) (rest : Value → Level → Effect) : Effect :=
  match l.stack with
  | [] => l.defect .stackUnderflow
  | value :: stack => rest value { l with stack := stack }

/-- Takes two values off the stack; the upper one is the second. -/
def pop2 (l : Level) (rest : Value → Value → Level → Effect) : Effect :=
  l.pop1 fun second l => l.pop1 fun first l => rest first second l

/-- Takes a number of values off the stack at once, lowest first. -/
def popMany (l : Level) (count : Nat) (rest : List Value → Level → Effect) : Effect :=
  if l.stack.length < count then l.defect .stackUnderflow
  else rest (l.stack.take count).reverse { l with stack := l.stack.drop count }

/-- The entries of keys and values in turn. -/
def pairs : List Value → List (String × Value)
  | key :: value :: rest => (key.display, value) :: pairs rest
  | _ => []

/-- Jumps if a condition holds of the top value, which stays; else drops it. -/
def jumpOrPop (l : Level) (test : Value → Bool) (target : Nat) : Effect :=
  match l.stack with
  | [] => l.defect .stackUnderflow
  | value :: stack =>
    if test value then .next (l.jump target) else .next { l with stack := stack }.advance

/-- What a loop over a value runs over; a map is run over by its keys. -/
def loopItems : Value → Except LoopFault (List Value)
  | .list items => .ok items
  | .map entries => .ok (entries.map fun entry => .str entry.1)
  | .undef => .ok []
  | other => .error (.notIterable other.kind)

def startLoop (l : Level) : Effect :=
  l.pop1 fun value l =>
    match loopItems value with
    | .ok items => .next { l with scope := l.scope.pushChild.setIter (.ofItems items) }.advance
    | .error fault => .fail (.iteration l.ip fault) l

/-- The value of `loop` in the round of a place. -/
def loopInfo (place size : Nat) : Value :=
  .map (Bindings.ofList [
    ("index", .ofNat place),
    ("count", .ofNat (place + 1)),
    ("first", .bool (place == 0)),
    ("last", .bool (place + 1 == size)),
    ("size", .ofNat size)])

/-- Binds the next item, or drops the loop's frame and leaves. -/
def iterate (l : Level) (var : String) (exit : Nat) : Effect :=
  match l.scope.top.iter with
  | none => .fail (.iteration l.ip .outsideLoop) l
  | some iter =>
    match iter.advance? with
    | some (item, after) =>
      let scope := (l.scope.setIter after).bind var item
      .next { l with scope := scope.bind "loop" (loopInfo iter.next iter.items.length) }.advance
    | none =>
      match l.scope.pop with
      | .ok scope => .next ({ l with scope := scope }.jump exit)
      | .error _ => l.defect .popRoot

/-- Enters the body of a macro in a new frame below the one that defined it. -/
def enterMacro (l : Level) (entry closure : Nat) (args : List (String × Value)) : Effect :=
  match l.scope.pushWithParent closure with
  | .error _ => l.typeFault .scopeEnded
  | .ok scope =>
    .next { l with
      ip := entry
      scope := args.foldl (fun s arg => s.bind arg.1 arg.2) scope
      calls := ⟨l.ip + 1, l.scope.depth, []⟩ :: l.calls }

def call (options : ExecutionOptions) (l : Level) (callee : Value) (args : List Value) : Effect :=
  match callee with
  | .macroRef ref =>
    if ref.program ≠ l.loaded.id then l.typeFault (.foreignMacro ref.name)
    else
      match l.loaded.program.macroAt ref.index with
      | .error fault => l.defect (.operand fault)
      | .ok (_, target) =>
        if args.length ≠ target.params.length then
          .fail (.arity l.ip target.name target.params.length args.length) l
        else if options.maxDepth < l.depth + 1 then
          .fail (.limit (.callDepth (l.depth + 1) options.maxDepth)) l
        else l.enterMacro target.entry ref.closure (target.params.zip args)
  | other => l.typeFault (.notCallable other.kind)

/-- Leaves a macro; all that it has written is one safe text. -/
def leaveMacro (l : Level) : Effect :=
  match l.calls with
  | [] => l.defect .returnOutsideCall
  | c :: rest =>
    .next { l with
      ip := c.returnTo
      scope := l.scope.truncate c.scopeDepth
      stack := .raw (String.join c.captured.reverse) :: l.stack
      calls := rest }

/-- Executes one operation. -/
def execute (options : ExecutionOptions) (l : Level) : Program.Resolved → Effect
  | .finish => .finish l
  | .constLoad literal => l.yield literal.toValue
  | .pop => l.pop1 fun _ l => .next l.advance
  | .loadVar name =>
    match l.scope.lookup name with
    | some value => l.yield value
    | none => if options.strictVariables then .fail (.unbound l.ip name) l else l.yield .undef
  | .storeVar name => l.pop1 fun value l => .next { l with scope := l.scope.bind name value }.advance
  | .fieldName name => l.pop1 fun container l => l.finishWith (container.field name)
  | .index => l.pop2 fun container key l => l.finishWith (container.index key)
  | .binOp op => l.pop2 fun left right l => l.finishWith (left.binary op right)
  | .not => l.pop1 fun value l => l.yield (.bool !value.isTruthy)
  | .neg => l.pop1 fun value l => l.finishWith value.negate
  | .makeList count => l.popMany count fun items l => l.yield (.list items)
  | .makeMap count =>
    l.popMany (2 * count) fun items l => l.yield (.map (Bindings.ofList (pairs items)))
  | .filter f => l.pop1 fun value l => l.finishWith (f.apply value)
  | .jump target => .next (l.jump target)
  | .popJumpIfFalse target =>
    l.pop1 fun value l => .next (if value.isTruthy then l.advance else l.jump target)
  | .jumpIfFalseOrPop target => l.jumpOrPop (fun value => !value.isTruthy) target
  | .jumpIfTrueOrPop target => l.jumpOrPop Value.isTruthy target
  | .forStart => l.startLoop
  | .forIter var exit => l.iterate var exit
  | .makeMacro (index, target) =>
    l.yield (.macroRef ⟨l.loaded.id, index, target.name, l.scope.current⟩)
  | .macroCall count => l.popMany count fun args l => l.pop1 fun callee l => l.call options callee args
  | .macroReturn => l.leaveMacro
  | .print mode => l.pop1 fun value l => .write (value.output (mode == .html)) l
  | .inclusion => l.pop2 fun name args l => .enter name.display args l

end Level
end TemplateEngine
