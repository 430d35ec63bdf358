import TemplateEngine.Program.Layout

/-!
# Compiling templates

A template is translated tree by tree to operations. The code of a part depends
on the place where it starts, since jumps are absolute; the target of a forward
jump is known from the lengths of the codes in between. The two things that can
be wrong with a template, an unknown filter and a repeated macro parameter, are
found on the way.
-/

namespace TemplateEngine

structure CompileOptions where
  /-- Whether printed values are escaped for HTML. -/
  autoEscape : Bool
deriving DecidableEq

/-- What can be wrong with a template. That its program has too many constants, names or
operations for numbers of 32 bits is left out: the pools and the code may have any length. -/
inductive CompileFault where
  | unknownFilter (name : String)
  | duplicateParam (name param : String)
deriving DecidableEq

def CompileFault.message : CompileFault → String
  | unknownFilter name => "unknown filter '" ++ name ++ "'"
  | duplicateParam name param => "duplicate parameter '" ++ param ++ "' in macro '" ++ name ++ "'"

/-- A fault, the template and the text that it stands in. -/
structure CompileError where
  name : String
  source : String
  span : Span
  fault : CompileFault
deriving DecidableEq

namespace CompileError

def position (e : CompileError) : Position := .ofOffset e.source e.span.start

def message (e : CompileError) : String :=
  e.name ++ ":" ++ toString e.position.line ++ ":" ++ toString e.position.column ++ ": "
    ++ e.fault.message

end CompileError

/-- Code, or the first fault with its span. -/
abbrev Code := Except (Span × CompileFault) (List SourceOp)

namespace Expr

mutual

/-- The code of an expression that starts at `start`; it pushes one value. -/
def code (start : Nat) : Expr → Code
  | literal l => .ok [.constLoad l]
  | list items => do
    let each ← codeList start items
    return each ++ [.makeList items.length]
  | var name => .ok [.loadVar name]
  | attr object field => do
    let inner ← code start object
    return inner ++ [.fieldName field]
  | index collection key => do
    let first ← code start collection
    let second ← code (start + first.length) key
    return first ++ second ++ [.index]
  | call function args => do
    let callee ← code start function
    let each ← codeList (start + callee.length) args
    return callee ++ each ++ [.macroCall args.length]
  | filter operand name span =>
    match Filter.ofName? name with
    | none => .error (span, .unknownFilter name)
    | some f => do
      let inner ← code start operand
      return inner ++ [.filter f]
  | unary .neg operand => do
    let inner ← code start operand
    return inner ++ [.neg]
  | unary .not operand => do
    let inner ← code start operand
    return inner ++ [.not]
  | binary op left right => do
    let first ← code start left
    let second ← code (start + first.length) right
    return first ++ second ++ [.binOp op]
  | logic op left right => do
    let first ← code start left
    let second ← code (start + first.length + 1) right
    let target := start + first.length + 1 + second.length
    let jump : SourceOp := match op with
      | .and => .jumpIfFalseOrPop target
      | .or => .jumpIfTrueOrPop target
    return first ++ jump :: second

/-- The codes of several expressions, one after the other. -/
def codeList (start : Nat) : List Expr → Code
  | [] => .ok []
  | e :: rest => do
    let first ← code start e
    let others ← codeList (start + first.length) rest
    return first ++ others

end

/-- The codes of arguments: each key as a text before its value. -/
def codeArgs (start : Nat) : List (String × Expr) → Code
  | [] => .ok []
  | (key, e) :: rest => do
    let first ← code (start + 1) e
    let others ← codeArgs (start + 1 + first.length) rest
    return .constLoad (.str key) :: first ++ others

end Expr

namespace Node

/-- The first parameter that repeats an earlier one. -/
def repeatedParam? : List String → List (String × Span) → Option (String × Span)
  | _, [] => none
  | seen, (param, span) :: rest =>
    if param ∈ seen then some (param, span) else repeatedParam? (param :: seen) rest

/-- A branch leaves the block after its body; without its condition it falls
to the others, which start at `next`. -/
def joinBranch (next : Nat) (cond inner others : List SourceOp) : List SourceOp :=
  cond ++ .popJumpIfFalse next :: inner ++ .jump (next + others.length) :: others

variable (options : CompileOptions)

def printMode : OutputMode := if options.autoEscape then .html else .raw

mutual

/-- The code of a node that starts at `start`. -/
def code (start : Nat) : Node → Code
  | text s => .ok (if s = "" then [] else [.constLoad (.str s), .print .raw])
  | print e => do
    let value ← e.code start
    return value ++ [.print (printMode options)]
  | branch test body rest => do
    let cond ← test.code start
    let inner ← codeList (start + cond.length + 1) body
    let next := start + cond.length + 1 + inner.length + 1
    let others ← codeRest next rest
    return joinBranch next cond inner others
  | foreach var iterable body => do
    let items ← iterable.code start
    let head := start + items.length + 1
    let inner ← codeList (head + 1) body
    let exit := head + 1 + inner.length + 1
    return items ++ .forStart :: .forIter var exit :: inner ++ [.jump head]
  | loop test body => do
    let cond ← test.code start
    let inner ← codeList (start + cond.length + 1) body
    let exit := start + cond.length + 1 + inner.length + 1
    return cond ++ .popJumpIfFalse exit :: inner ++ [.jump start]
  | assign name value => do
    let inner ← value.code start
    return inner ++ [.storeVar name]
  | define name params body =>
    match repeatedParam? [] params with
    | some (param, span) => .error (span, .duplicateParam name param)
    | none => do
      let entry := start + 3
      let inner ← codeList entry body
      let after := entry + inner.length + 1
      return .makeMacro ⟨name, params.map Prod.fst, entry⟩ :: .storeVar name :: .jump after
        :: inner ++ [.macroReturn]
  | inclusion template args => do
    let name ← template.code start
    let entries ← Expr.codeArgs (start + name.length) args
    return name ++ entries ++ [.makeMap args.length, .inclusion]

def codeRest (start : Nat) : Alternatives → Code
  | .done => .ok []
  | .otherwise body => codeList start body
  | .elsif test body rest => do
    let cond ← test.code start
    let inner ← codeList (start + cond.length + 1) body
    let next := start + cond.length + 1 + inner.length + 1
    let others ← codeRest next rest
    return joinBranch next cond inner others

def codeList (start : Nat) : List Node → Code
  | [] => .ok []
  | node :: rest => do
    let first ← code start node
    let others ← codeList (start + first.length) rest
    return first ++ others

end

end Node

/-- Compiles a template; `source` is the text that its spans refer to. -/
def Template.compile (options : CompileOptions) (source : String) (template : Template) :
    Except CompileError Program :=
  match Node.codeList options 0 template.body with
  | .ok ops => .ok (.ofOps template.name (ops ++ [.finish]))
  | .error (span, fault) => .error ⟨template.name, source, span, fault⟩

end TemplateEngine
