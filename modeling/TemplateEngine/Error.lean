import TemplateEngine.FileSystem.Basic
import TemplateEngine.Program.Compile
import TemplateEngine.Template.ParseError
import TemplateEngine.Value.TypeFault

/-!
# Errors

All that can go wrong while a template is found, parsed, compiled, cached and
run. An error that stops an included template is kept inside the error of the
template that includes it; reaching a limit is reported as it is.
-/

namespace TemplateEngine

inductive CacheError where
  | file (path : String) (fault : FileFault)
  /-- Times before the epoch have no written form. -/
  | unwritableTime
deriving DecidableEq

def CacheError.message : CacheError → String
  | file path fault => "cache I/O error on " ++ path ++ ": " ++ fault.message
  | unwritableTime => "failed to encode cache entry: Serde Serialization Error"

inductive LoopFault where
  | notIterable (kind : Kind)
  | outsideLoop
deriving DecidableEq

def LoopFault.message : LoopFault → String
  | notIterable kind => "cannot iterate over a " ++ kind.name ++ " value"
  | outsideLoop => "loop iteration outside of a loop frame"

/-- What a well-formed program never does. -/
inductive ProgramDefect where
  | pointerOutOfRange
  | operand (fault : OperandFault)
  | stackUnderflow
  | returnOutsideCall
  | popRoot
deriving DecidableEq

def ProgramDefect.message : ProgramDefect → String
  | pointerOutOfRange => "instruction pointer out of range"
  | operand .constant => "constant index out of range"
  | operand .name => "name index out of range"
  | operand .callee => "macro index out of range"
  | stackUnderflow => "evaluation stack underflow"
  | returnOutsideCall => "macro return without a call"
  | popRoot => "attempted to pop the root scope"

/-- A bound on a run that was reached. -/
inductive Limit where
  | callDepth (depth maximum : Nat)
  | includeDepth (depth maximum : Nat)
  | steps (maximum : Nat)
deriving DecidableEq

def Limit.message : Limit → String
  | callDepth depth maximum =>
    "call depth " ++ toString depth ++ " exceeds maximum of " ++ toString maximum
  | includeDepth depth maximum =>
    "include depth " ++ toString depth ++ " exceeds maximum of " ++ toString maximum
  | steps maximum => "execution exceeded the limit of " ++ toString maximum ++ " steps"

mutual

inductive Error where
  | notFound (name : String) (searched : List String)
  | parse (e : ParseError)
  | compile (e : CompileError)
  | cache (e : CacheError)
  | runtime (e : RuntimeError)
  | file (name : String) (fault : FileFault)
  | unknownDialect (name : String)

/-- What stops a run, with the instruction at which it did. -/
inductive RuntimeError where
  | type (ip : Nat) (fault : TypeFault)
  | unbound (ip : Nat) (name : String)
  | arity (ip : Nat) (name : String) (expected got : Nat)
  | iteration (ip : Nat) (fault : LoopFault)
  | limit (l : Limit)
  | noLoader (name : String)
  | included (name : String) (source : Error)
  | output (reason : String)
  | malformed (ip : Nat) (defect : ProgramDefect)

end

namespace Error

def placesText : List String → String
  | [] => "no load paths"
  | places => ", ".intercalate places

end Error

mutual

def Error.message : Error → String
  | .notFound name searched =>
    "template '" ++ name ++ "' not found (searched " ++ Error.placesText searched ++ ")"
  | .parse e => "syntax error: " ++ e.message
  | .compile e => "compile error: " ++ e.message
  | .cache e => "cache error: " ++ e.message
  | .runtime e => "runtime error: " ++ e.message
  | .file name fault => "failed to read template '" ++ name ++ "': " ++ fault.message
  | .unknownDialect name => "configuration error: unknown syntax '" ++ name ++ "'"

def RuntimeError.message : RuntimeError → String
  | .type ip fault => "type error at instruction " ++ toString ip ++ ": " ++ fault.message
  | .unbound ip name => "undefined variable '" ++ name ++ "' at instruction " ++ toString ip
  | .arity _ name expected got =>
    "macro '" ++ name ++ "' expects " ++ toString expected ++ " argument(s), got " ++ toString got
  | .iteration ip fault =>
    "iterator protocol violation at instruction " ++ toString ip ++ ": " ++ fault.message
  | .limit l => l.message
  | .noLoader name => "cannot include '" ++ name ++ "': no loader is configured"
  | .included name source => "in template included as '" ++ name ++ "': " ++ source.message
  | .output reason => "failed to write output: " ++ reason
  | .malformed ip defect =>
    "malformed program at instruction " ++ toString ip ++ ": " ++ defect.message

end

/-- The error of a template whose inclusion under a name ended in an error. -/
def RuntimeError.around (name : String) : RuntimeError → RuntimeError
  | .limit l => .limit l
  | e => .included name (.runtime e)

end TemplateEngine
