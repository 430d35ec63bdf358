import TemplateEngine.Program.Basic

/-!
# Checking a program

A program that came from outside is checked before it runs: it ends with
`finish`, every operand is a place in its pool, and every jump and every macro
stays within the instructions.
-/

namespace TemplateEngine

/-- The defect of a program at an instruction. -/
structure ProgramFault where
  position : Nat
  reason : String
deriving DecidableEq

def ProgramFault.message (f : ProgramFault) : String :=
  "invalid program at instruction " ++ toString f.position ++ ": " ++ f.reason

namespace Program

/-- That a place lies within a pool of a size. -/
def checkPlace (position index size : Nat) (what : String) : Except ProgramFault Unit :=
  if index < size then .ok ()
  else .error
    ⟨position, what ++ " index " ++ toString index ++ " out of range (" ++ toString size ++ ")"⟩

def checkOperand (p : Program) (position : Nat) : Instruction → Except ProgramFault Unit
  | .constLoad i => checkPlace position i p.constants.size "constant"
  | .loadVar i | .storeVar i | .fieldName i | .forIter i _ =>
    checkPlace position i p.names.size "name"
  | .makeMacro i => checkPlace position i p.macros.size "macro"
  | _ => .ok ()

def checkTarget (p : Program) (position : Nat) (instruction : Instruction) :
    Except ProgramFault Unit :=
  match instruction.target? with
  | some target => checkPlace position target p.instructions.size "jump target"
  | none => .ok ()

def checkInstructions (p : Program) : Nat → List Instruction → Except ProgramFault Unit
  | _, [] => .ok ()
  | position, instruction :: rest => do
    p.checkOperand position instruction
    p.checkTarget position instruction
    checkInstructions p (position + 1) rest

def checkMacros (p : Program) : List MacroDef → Except ProgramFault Unit
  | [] => .ok ()
  | callee :: rest =>
    if callee.entry < p.instructions.size then checkMacros p rest
    else .error ⟨callee.entry, "macro " ++ callee.name ++ " entry out of range"⟩

/-- The first defect of a program, if it has one. -/
def check (p : Program) : Except ProgramFault Unit :=
  if p.instructions.back? = some .finish then do
    p.checkInstructions 0 p.instructions.toList
    p.checkMacros p.macros.toList
  else .error ⟨p.instructions.size, "program does not end with End"⟩

def isValid (p : Program) : Bool := p.check.isOk

end Program
end TemplateEngine
