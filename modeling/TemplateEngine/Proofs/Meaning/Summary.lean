import TemplateEngine.Proofs.Machine.Written
import TemplateEngine.Proofs.Meaning.Interpreter

/-!
# What can be seen of a run

A run is seen by what it has written, its error and its surroundings. Trees have
no instructions, so errors are compared without the places they occurred at.
-/

namespace TemplateEngine

mutual

/-- The error with instruction 0 for every place in it. -/
def Error.unplaced : Error → Error
  | .runtime e => .runtime e.unplaced
  | .notFound name searched => .notFound name searched
  | .parse e => .parse e
  | .compile e => .compile e
  | .cache e => .cache e
  | .file name fault => .file name fault
  | .unknownDialect name => .unknownDialect name

def RuntimeError.unplaced : RuntimeError → RuntimeError
  | .type _ fault => .type 0 fault
  | .unbound _ name => .unbound 0 name
  | .arity _ name expected got => .arity 0 name expected got
  | .iteration _ fault => .iteration 0 fault
  | .limit l => .limit l
  | .noLoader name => .noLoader name
  | .included name source => .included name source.unplaced
  | .output reason => .output reason
  | .malformed _ defect => .malformed 0 defect

end

namespace RuntimeError

theorem unplaced_around (name : String) (e : RuntimeError) :
    (e.around name).unplaced = e.unplaced.around name := by
  cases e <;> rfl

/-- The error that the levels around give it, innermost first. -/
def aroundAll (outer : List Waiting) (e : RuntimeError) : RuntimeError :=
  outer.foldl (fun e w => e.around w.name) e

theorem unplaced_aroundAll (outer : List Waiting) (e : RuntimeError) :
    (e.aroundAll outer).unplaced = e.unplaced.aroundAll outer := by
  induction outer generalizing e with
  | nil => rfl
  | cons w rest ih => exact (ih (e.around w.name)).trans (by rw [unplaced_around]; rfl)

end RuntimeError

/-- What can be seen of a run that has ended. -/
structure Summary (ω : Type) where
  /-- What the sink has taken, latest first. -/
  accepted : List String
  /-- The count of bytes that the run reports. -/
  written : Nat
  error : Option RuntimeError
  surroundings : ω

def Outcome.summary {ω : Type} (o : Outcome ω) : Summary ω where
  accepted := o.accepted
  written := o.level.written
  error := o.error.map RuntimeError.unplaced
  surroundings := o.surroundings

namespace Meaning

variable {ω : Type}

/-- What is seen after the meaning of a whole template. -/
def State.summary (s : State ω) (result : Except RuntimeError Unit) : Summary ω where
  accepted := s.accepted
  written := byteCount s.accepted
  error := match result with
    | .ok () => none
    | .error e => some e.unplaced
  surroundings := s.surroundings

/-- Runs a template by its meaning, with fuel for macro calls, inclusions and
rounds of `WHILE` blocks. -/
def run (setting : Setting ω) (fuel : Nat) (t : CompiledTemplate) (vars : Vars)
    (surroundings : ω) : Option (Summary ω) :=
  (interpret setting fuel ⟨t, 0, 0⟩ 0 t.template.body ⟨.ofVars vars, [], [], surroundings⟩).map
    fun (result, s) => s.summary result

end Meaning
end TemplateEngine
