import TemplateEngine.Operator
import TemplateEngine.Value.Basic

/-!
# Faults of operations on values

Each way in which an operation can meet a value of the wrong kind, with the one
place where it is put into words.
-/

namespace TemplateEngine

inductive TypeFault where
  | divisionByZero
  | remainderOfFloats
  | unsupportedOperands (op : BinaryOp) (left right : Kind)
  | incomparable (op : BinaryOp) (left right : Kind)
  | notNegatable (kind : Kind)
  | noSuchItem (field : String)
  | noFields (field : String) (kind : Kind)
  | indexNotInt (kind : Kind)
  | notIndexable (kind : Kind)
  | noLength (kind : Kind)
  | notCallable (kind : Kind)
  | foreignMacro (name : String)
  /-- The frame in which a macro was defined is gone. -/
  | scopeEnded
  | argumentsNotMap (kind : Kind)
deriving DecidableEq

def TypeFault.message : TypeFault → String
  | divisionByZero => "division by zero"
  | remainderOfFloats => "'%' requires int operands"
  | unsupportedOperands op left right =>
    "unsupported operand kinds for '" ++ op.symbol ++ "': " ++ left.name ++ " and " ++ right.name
  | incomparable op left right =>
    "cannot compare " ++ left.name ++ " with " ++ right.name ++ " using '" ++ op.symbol ++ "'"
  | notNegatable kind => "cannot negate a " ++ kind.name ++ " value"
  | noSuchItem field => "list has no field '" ++ field ++ "'"
  | noFields field kind => "cannot access field '" ++ field ++ "' of a " ++ kind.name ++ " value"
  | indexNotInt kind => "list index must be an int, got " ++ kind.name
  | notIndexable kind => "cannot index into a " ++ kind.name ++ " value"
  | noLength kind => "a " ++ kind.name ++ " value has no length"
  | notCallable kind => "a " ++ kind.name ++ " value is not callable"
  | foreignMacro name =>
    "macro '" ++ name ++ "' belongs to another template and cannot be called here"
  | scopeEnded => "macro called after the scope it was defined in has ended"
  | argumentsNotMap kind => "include arguments must be a map, got " ++ kind.name

end TemplateEngine
