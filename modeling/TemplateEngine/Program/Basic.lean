import TemplateEngine.Template.Basic
import TemplateEngine.Value.Filter

/-!
# Programs

A program is a sequence of operations over three pools: constants, names and
macros. The operands of an instruction are places in the pools. The same
operations with the operands themselves in place of their places are used
before a program is laid out and after an instruction has been looked up, so
the type is generic in the three kinds of operand. Jump targets are absolute.
-/

namespace TemplateEngine

/-- How `print` treats the text of a value. -/
inductive OutputMode where
  | raw
  | html
deriving DecidableEq, Repr

/-- An operation with constants `κ`, names `ν` and macros `μ` as operands. -/
inductive Op (κ ν μ : Type) where
  | finish
  | constLoad (constant : κ)
  | pop
  | loadVar (name : ν)
  | storeVar (name : ν)
  | fieldName (name : ν)
  | index
  | binOp (op : BinaryOp)
  | not
  | neg
  | makeList (count : Nat)
  | makeMap (count : Nat)
  | filter (filter : Filter)
  | jump (target : Nat)
  | popJumpIfFalse (target : Nat)
  | jumpIfFalseOrPop (target : Nat)
  | jumpIfTrueOrPop (target : Nat)
  | forStart
  | forIter (var : ν) (exit : Nat)
  | makeMacro (callee : μ)
  | macroCall (count : Nat)
  | macroReturn
  | print (mode : OutputMode)
  | inclusion
deriving DecidableEq

/-- An operation whose operands are places in the pools of its program. -/
abbrev Instruction := Op Nat Nat Nat

/-- A macro of a program; its body starts at `entry`. -/
structure MacroDef where
  name : String
  params : List String
  entry : Nat
deriving DecidableEq

structure Program where
  name : String
  constants : Array Literal
  names : Array String
  macros : Array MacroDef
  instructions : Array Instruction
deriving DecidableEq

/-- A program in memory. Each compilation and each decoding gives a program an
identity of its own, by which macros know the program they belong to. -/
structure Loaded where
  id : Nat
  program : Program
deriving DecidableEq

namespace Op

variable {κ ν μ κ' ν' μ' : Type}

/-- The target of an operation that may jump. -/
def target? : Op κ ν μ → Option Nat
  | jump target | popJumpIfFalse target | jumpIfFalseOrPop target | jumpIfTrueOrPop target =>
    some target
  | forIter _ exit => some exit
  | _ => none

end Op

/-- Why an instruction has no meaning in its program. -/
inductive OperandFault where
  | constant
  | name
  | callee
deriving DecidableEq

namespace Program

/-- An instruction with its operands; a macro keeps its place beside it. -/
abbrev Resolved := Op Literal String (Nat × MacroDef)

def constant (p : Program) (i : Nat) : Except OperandFault Literal :=
  match p.constants[i]? with
  | some literal => .ok literal
  | none => .error .constant

def nameAt (p : Program) (i : Nat) : Except OperandFault String :=
  match p.names[i]? with
  | some name => .ok name
  | none => .error .name

def macroAt (p : Program) (i : Nat) : Except OperandFault (Nat × MacroDef) :=
  match p.macros[i]? with
  | some callee => .ok (i, callee)
  | none => .error .callee

def resolve (p : Program) : Instruction → Except OperandFault Resolved
  | .finish => .ok .finish
  | .constLoad i => (p.constant i).map .constLoad
  | .pop => .ok .pop
  | .loadVar i => (p.nameAt i).map .loadVar
  | .storeVar i => (p.nameAt i).map .storeVar
  | .fieldName i => (p.nameAt i).map .fieldName
  | .index => .ok .index
  | .binOp op => .ok (.binOp op)
  | .not => .ok .not
  | .neg => .ok .neg
  | .makeList n => .ok (.makeList n)
  | .makeMap n => .ok (.makeMap n)
  | .filter f => .ok (.filter f)
  | .jump t => .ok (.jump t)
  | .popJumpIfFalse t => .ok (.popJumpIfFalse t)
  | .jumpIfFalseOrPop t => .ok (.jumpIfFalseOrPop t)
  | .jumpIfTrueOrPop t => .ok (.jumpIfTrueOrPop t)
  | .forStart => .ok .forStart
  | .forIter i exit => (p.nameAt i).map (.forIter · exit)
  | .makeMacro i => (p.macroAt i).map .makeMacro
  | .macroCall n => .ok (.macroCall n)
  | .macroReturn => .ok .macroReturn
  | .print mode => .ok (.print mode)
  | .inclusion => .ok .inclusion

end Program
end TemplateEngine
