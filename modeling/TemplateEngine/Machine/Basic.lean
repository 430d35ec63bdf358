import TemplateEngine.Machine.Level

/-!
# The machine

A machine runs a program and, inside of it, the templates that it includes. The
levels that wait for an included template to end are kept innermost first, each
with the name under which the template was asked for. Text goes to the innermost
macro call in progress at any level, and past all of them to the sink. What the
loader of templates does to its surroundings is threaded through a run, so the
machine is generic in them.

A run is a sequence of steps. It takes fuel, and gives no outcome if the fuel
does not last; `ExecutionOptions` has a bound of its own, which is an error.
-/

namespace TemplateEngine

/-- Finds compiled templates by name, in surroundings `ω`. -/
abbrev TemplateSource (ω : Type) := String → ω → Except Error Loaded × ω

/-- Decides about a text from what was accepted so far, latest first: takes it
whole or refuses it whole for a reason. -/
abbrev Sink := List String → String → Option String

namespace Sink

def unlimited : Sink := fun _ _ => none

/-- Refuses a text that would pass a number of bytes. -/
def limited (bytes : Nat) (reason : String) : Sink := fun accepted text =>
  let taken := accepted.foldr (fun text n => text.utf8ByteSize + n) 0
  if bytes < taken + text.utf8ByteSize then some reason else none

end Sink

/-- What a run is given and does not change. -/
structure Environment (ω : Type) where
  options : ExecutionOptions
  source : Option (TemplateSource ω)
  sink : Sink

/-- A level at an inclusion whose template is running. -/
structure Waiting where
  name : String
  level : Level

structure Machine (ω : Type) where
  level : Level
  /-- Innermost first. -/
  outer : List Waiting
  /-- Instructions executed so far, at all levels. -/
  steps : Nat
  /-- What the sink has taken, latest first. -/
  accepted : List String
  surroundings : ω

/-- How a run ended, with the state of the outermost level. -/
structure Outcome (ω : Type) where
  level : Level
  steps : Nat
  accepted : List String
  surroundings : ω
  error : Option RuntimeError

def Outcome.output {ω : Type} (o : Outcome ω) : String := String.join o.accepted.reverse

namespace Level

/-- Gives a text to the innermost call in progress. -/
def capture? (l : Level) (text : String) : Option Level :=
  match l.calls with
  | [] => none
  | c :: rest => some { l with calls := { c with captured := text :: c.captured } :: rest }

/-- Lets a text pass. -/
def pass (l : Level) (text : String) : Level := { l with written := l.written + text.utf8ByteSize }

end Level

namespace Waiting

/-- Gives a text to the innermost call of the waiting levels; `none` if it would
pass them all. -/
def capture? (text : String) : List Waiting → Option (List Waiting)
  | [] => none
  | w :: rest =>
    match w.level.capture? text with
    | some level => some ({ w with level := level } :: rest)
    | none => (capture? text rest).map ({ w with level := w.level.pass text } :: ·)

/-- Lets a text pass all waiting levels. -/
def passAll (text : String) (waiting : List Waiting) : List Waiting :=
  waiting.map fun w => { w with level := w.level.pass text }

end Waiting

namespace Machine

variable {ω : Type}

def start (loaded : Loaded) (vars : Vars) (surroundings : ω) : Machine ω where
  level := .start loaded vars 0
  outer := []
  steps := 0
  accepted := []
  surroundings := surroundings

/-- Either the machine after a step or the outcome. -/
abbrev Progress (ω : Type) := Machine ω ⊕ Outcome ω

/-- Writes a text, or tells why the sink refuses it. -/
def write (sink : Sink) (m : Machine ω) (text : String) : Except String (Machine ω) :=
  match m.level.capture? text with
  | some level => .ok { m with level := level }
  | none =>
    match Waiting.capture? text m.outer with
    | some outer => .ok { m with level := m.level.pass text, outer := outer }
    | none =>
      match sink m.accepted text with
      | some reason => .error reason
      | none => .ok { m with
          level := m.level.pass text
          outer := Waiting.passAll text m.outer
          accepted := text :: m.accepted }

def outcome (m : Machine ω) (level : Level) (error : Option RuntimeError) : Outcome ω where
  level := level
  steps := m.steps
  accepted := m.accepted
  surroundings := m.surroundings
  error := error

/-- Ends the run with an error of the innermost level, which the waiting levels
take for their own one after the other. -/
def abort (m : Machine ω) (e : RuntimeError) : Outcome ω :=
  let level := (m.outer.getLast?.map Waiting.level).getD m.level
  m.outcome level (some (m.outer.foldl (fun e w => e.around w.name) e))

/-- Ends the innermost level; the one around it goes on. -/
def finish (m : Machine ω) : Progress ω :=
  match m.outer with
  | [] => .inr (m.outcome m.level none)
  | w :: rest => .inl { m with level := w.level.advance, outer := rest }

/-- The variables of an included template: all that is visible at the inclusion,
and the arguments in front of it. -/
def includedVars (l : Level) (args : Value) : Except TypeFault Vars :=
  match args with
  | .map entries => .ok (Bindings.insertAll l.scope.visible entries)
  | .undef => .ok l.scope.visible
  | other => .error (.argumentsNotMap other.kind)

/-- Starts another template. The bounds are checked before the arguments, those
before the template is looked for. -/
def enter (env : Environment ω) (m : Machine ω) (name : String) (args : Value) : Progress ω :=
  match env.source with
  | none => .inr (m.abort (.noLoader name))
  | some source =>
    let depth := m.level.depth + 1
    let includeDepth := m.outer.length + 1
    if env.options.maxDepth < depth then
      .inr (m.abort (.limit (.callDepth depth env.options.maxDepth)))
    else if env.options.maxIncludeDepth < includeDepth then
      .inr (m.abort (.limit (.includeDepth includeDepth env.options.maxIncludeDepth)))
    else
      match includedVars m.level args with
      | .error fault => .inr (m.abort (.type m.level.ip fault))
      | .ok vars =>
        match source name m.surroundings with
        | (.error e, surroundings) =>
          .inr ({ m with surroundings := surroundings }.abort (.included name e))
        | (.ok loaded, surroundings) =>
          .inl { m with
            level := .start loaded vars depth
            outer := ⟨name, m.level⟩ :: m.outer
            surroundings := surroundings }

/-- Carries out what an instruction asks for. -/
def perform (env : Environment ω) (m : Machine ω) : Effect → Progress ω
  | .next level => .inl { m with level := level }
  | .write text level =>
    let m := { m with level := level }
    match m.write env.sink text with
    | .ok m => .inl { m with level := m.level.advance }
    | .error reason => .inr (m.abort (.output reason))
  | .enter name args level => { m with level := level }.enter env name args
  | .finish level => { m with level := level }.finish
  | .fail e level => .inr ({ m with level := level }.abort e)

/-- Whether a number of steps uses up a bound on them. -/
def exhausted? (options : ExecutionOptions) (steps : Nat) : Option Limit :=
  match options.maxSteps with
  | none => none
  | some maximum => if maximum ≤ steps then some (.steps maximum) else none

/-- Executes one instruction. -/
def step (env : Environment ω) (m : Machine ω) : Progress ω :=
  match exhausted? env.options m.steps with
  | some limit => .inr (m.abort (.limit limit))
  | none =>
    let m := { m with steps := m.steps + 1 }
    match m.level.fetch with
    | .error defect => .inr (m.abort (.malformed m.level.ip defect))
    | .ok op => m.perform env (m.level.execute env.options op)

/-- Steps until the run ends or the fuel does. -/
def run (env : Environment ω) : Nat → Machine ω → Option (Outcome ω)
  | 0, _ => none
  | fuel + 1, m =>
    match m.step env with
    | .inl m => run env fuel m
    | .inr outcome => some outcome

/-- More fuel does not change an outcome. -/
theorem run_mono {env : Environment ω} {fuel more : Nat} (h : fuel ≤ more) {m : Machine ω}
    {o : Outcome ω} (ended : run env fuel m = some o) : run env more m = some o := by
  induction fuel generalizing more m with
  | zero => simp [run] at ended
  | succ fuel ih =>
    obtain ⟨more, rfl⟩ : ∃ n, more = n + 1 := ⟨more - 1, by omega⟩
    rw [run] at ended ⊢
    split at ended
    · rename_i next _
      exact ih (by omega) ended
    · exact ended

end Machine
end TemplateEngine
