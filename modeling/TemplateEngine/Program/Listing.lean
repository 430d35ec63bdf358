import TemplateEngine.Number.Shortest
import TemplateEngine.Program.Basic
import TemplateEngine.Text.Quoted

/-!
# Listings

The readable form of a program: its pools, its macros and one line for each
instruction. Places that are jumped to are labelled, numbered upwards.
-/

namespace TemplateEngine

/-- The form of a literal, with its constructor. -/
def Literal.listing : Literal → String
  | undef => "Undef"
  | bool b => "Bool(" ++ (if b then "true" else "false") ++ ")"
  | int i => "Int(" ++ toString i.toInt ++ ")"
  | float x => "Float(" ++ x.format Binary64.marked ++ ")"
  | str s => "Str(" ++ Text.quoted s ++ ")"

namespace Instruction

/-- The name of an instruction and its operands. -/
def listing : Instruction → String
  | .finish => "End"
  | .constLoad i => call "ConstLoad" i
  | .pop => "Pop"
  | .loadVar i => call "LoadVar" i
  | .storeVar i => call "StoreVar" i
  | .fieldName i => call "FieldName" i
  | .index => "Index"
  | .binOp op => "BinOp(" ++ op.symbol ++ ")"
  | .not => "Not"
  | .neg => "Neg"
  | .makeList n => call "MakeList" n
  | .makeMap n => call "MakeMap" n
  | .filter f => "Filter(" ++ f.label ++ ")"
  | .jump t => call "Jump" t
  | .popJumpIfFalse t => call "PopJumpIfFalse" t
  | .jumpIfFalseOrPop t => call "JumpIfFalseOrPop" t
  | .jumpIfTrueOrPop t => call "JumpIfTrueOrPop" t
  | .forStart => "ForStart"
  | .forIter i exit => "ForIter(var=" ++ toString i ++ ", exit=" ++ toString exit ++ ")"
  | .makeMacro i => call "MakeMacro" i
  | .macroCall n => call "MacroCall" n
  | .macroReturn => "MacroReturn"
  | .print .raw => "Print(raw)"
  | .print .html => "Print(html)"
  | .inclusion => "Include"
where
  call (name : String) (operand : Nat) : String := name ++ "(" ++ toString operand ++ ")"

end Instruction

namespace Program

/-- Text brought to a width with blanks on the left. -/
def alignRight (width : Nat) (s : String) : String :=
  String.ofList (Text.padLeft width ' ' s.toList)

/-- The places that get a label, in ascending order and each once. -/
def labelled (p : Program) : List Nat :=
  let targets := p.instructions.toList.filterMap Op.target? ++ p.macros.toList.map MacroDef.entry
  (targets.mergeSort (· ≤ ·)).eraseReps

def listConstants (p : Program) : String :=
  if p.constants.isEmpty then "  constants: []\n"
  else
    let line := fun (literal, i) => "    [" ++ toString i ++ "] = " ++ Literal.listing literal ++ "\n"
    "  constants: [\n" ++ String.join (p.constants.toList.zipIdx.map line) ++ "  ]\n"

def listNames (p : Program) : String :=
  if p.names.isEmpty then ""
  else "  names: [" ++ ", ".intercalate (p.names.toList.map Text.quoted) ++ "]\n"

def listMacro (i : Nat) (callee : MacroDef) : String :=
  "  macro [" ++ toString i ++ "] " ++ callee.name ++ "(" ++ ", ".intercalate callee.params
    ++ ") @ " ++ toString callee.entry ++ "\n"

def listInstruction (labels : List Nat) (place : Nat) (instruction : Instruction) : String :=
  let label := match labels.idxOf? place with
    | some n => "L" ++ toString n ++ ":"
    | none => ""
  let destination := match instruction.target? with
    | none => ""
    | some target =>
      match labels.idxOf? target with
      | some n => " (to L" ++ toString n ++ ")"
      | none => " (to @" ++ toString target ++ ")"
  "    " ++ alignRight 4 (toString place) ++ " " ++ alignRight 4 label ++ "  "
    ++ instruction.listing ++ destination ++ "\n"

def listing (p : Program) : String :=
  let labels := p.labelled
  "Program " ++ Text.quoted p.name ++ " \x7b\n" ++ p.listConstants ++ p.listNames
    ++ String.join (p.macros.toList.zipIdx.map fun (callee, i) => listMacro i callee)
    ++ "  instructions:\n"
    ++ String.join (p.instructions.toList.zipIdx.map fun (instruction, i) =>
      listInstruction labels i instruction)
    ++ "\x7d"

end Program
end TemplateEngine
