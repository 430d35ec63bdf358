import TemplateEngine.Binary.Basic
import TemplateEngine.Program.Basic

/-!
# Programs as bytes

A variant of a type is written as its number, followed by what it carries.
Operands and entries have 32 bits.
-/

namespace TemplateEngine.Binary

def encodeLiteral : Literal → List UInt8
  | .undef => [0]
  | .bool b => 1 :: encodeBool b
  | .int i => 2 :: encodeInt i
  | .float x => 3 :: encodeFixed 8 x.bits.toNat
  | .str s => 4 :: encodeText s

def decodeLiteral : Decoder Literal := do
  match ← decodeNat 32 with
  | 0 => return .undef
  | 1 => return .bool (← decodeBool)
  | 2 => return .int (← decodeInt)
  | 3 => return .float ⟨UInt64.ofNat (← decodeFixed 8)⟩
  | 4 => return .str (← decodeText)
  | _ => failure

/-- The number of a variant without content is its place in a list of all. -/
def encodeChoice {α : Type} [BEq α] (all : List α) (a : α) : List UInt8 := encodeNat (all.idxOf a)

def decodeChoice {α : Type} (all : List α) : Decoder α := do
  match all[← decodeNat 32]? with
  | some a => return a
  | none => failure

def outputModes : List OutputMode := [.raw, .html]

def encodeInstruction : Instruction → List UInt8
  | .finish => [0]
  | .constLoad i => 1 :: encodeNat i
  | .pop => [2]
  | .loadVar i => 3 :: encodeNat i
  | .storeVar i => 4 :: encodeNat i
  | .fieldName i => 5 :: encodeNat i
  | .index => [6]
  | .binOp op => 7 :: encodeChoice BinaryOp.all op
  | .not => [8]
  | .neg => [9]
  | .makeList n => 10 :: encodeNat n
  | .makeMap n => 11 :: encodeNat n
  | .filter f => 12 :: encodeChoice Filter.all f
  | .jump t => 13 :: encodeNat t
  | .popJumpIfFalse t => 14 :: encodeNat t
  | .jumpIfFalseOrPop t => 15 :: encodeNat t
  | .jumpIfTrueOrPop t => 16 :: encodeNat t
  | .forStart => [17]
  | .forIter i exit => 18 :: encodeNat i ++ encodeNat exit
  | .makeMacro i => 19 :: encodeNat i
  | .macroCall n => 20 :: encodeNat n
  | .macroReturn => [21]
  | .print mode => 22 :: encodeChoice outputModes mode
  | .inclusion => [23]

def decodeInstruction : Decoder Instruction := do
  match ← decodeNat 32 with
  | 0 => return .finish
  | 1 => return .constLoad (← decodeNat 32)
  | 2 => return .pop
  | 3 => return .loadVar (← decodeNat 32)
  | 4 => return .storeVar (← decodeNat 32)
  | 5 => return .fieldName (← decodeNat 32)
  | 6 => return .index
  | 7 => return .binOp (← decodeChoice BinaryOp.all)
  | 8 => return .not
  | 9 => return .neg
  | 10 => return .makeList (← decodeNat 32)
  | 11 => return .makeMap (← decodeNat 32)
  | 12 => return .filter (← decodeChoice Filter.all)
  | 13 => return .jump (← decodeNat 32)
  | 14 => return .popJumpIfFalse (← decodeNat 32)
  | 15 => return .jumpIfFalseOrPop (← decodeNat 32)
  | 16 => return .jumpIfTrueOrPop (← decodeNat 32)
  | 17 => return .forStart
  | 18 => do
    let var ← decodeNat 32
    return .forIter var (← decodeNat 32)
  | 19 => return .makeMacro (← decodeNat 32)
  | 20 => return .macroCall (← decodeNat 32)
  | 21 => return .macroReturn
  | 22 => return .print (← decodeChoice outputModes)
  | 23 => return .inclusion
  | _ => failure

def encodeMacro (m : MacroDef) : List UInt8 :=
  encodeText m.name ++ encodeList encodeText m.params ++ encodeNat m.entry

def decodeMacro : Decoder MacroDef := do
  let name ← decodeText
  let params ← decodeList decodeText
  let entry ← decodeNat 32
  return ⟨name, params, entry⟩

def encodeProgram (p : Program) : List UInt8 :=
  encodeText p.name ++ encodeList encodeLiteral p.constants.toList
    ++ encodeList encodeText p.names.toList ++ encodeList encodeMacro p.macros.toList
    ++ encodeList encodeInstruction p.instructions.toList

def decodeProgram : Decoder Program := do
  let name ← decodeText
  let constants ← decodeList decodeLiteral
  let names ← decodeList decodeText
  let macros ← decodeList decodeMacro
  let instructions ← decodeList decodeInstruction
  return ⟨name, constants.toArray, names.toArray, macros.toArray, instructions.toArray⟩

end TemplateEngine.Binary
