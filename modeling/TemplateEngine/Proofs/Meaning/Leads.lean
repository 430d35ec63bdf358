import TemplateEngine.Proofs.Machine.Captures
import TemplateEngine.Proofs.Machine.Reaches
import TemplateEngine.Proofs.Meaning.Summary
import TemplateEngine.Proofs.Program.Routines
import TemplateEngine.Proofs.Scope.Plain

/-!
# Machines that do what an action does

An action and a machine start from the same state. `Leads` says that the machine
gets to where the action ends: to a machine in the state that the action leaves,
or to an outcome with the same error. While the action runs out of fuel, the
machine makes at least as many steps as there was fuel.
-/

namespace TemplateEngine

theorem RuntimeError.aroundAll_map_blank (e : RuntimeError) (outer : List Waiting) :
    e.aroundAll (outer.map Waiting.blank) = e.aroundAll outer :=
  List.foldl_map

namespace Meaning

variable {ω α β : Type}

/-- What stays the same of a machine while it runs a piece of code. What has
been captured and counted is left out. -/
structure Site where
  loaded : Loaded
  calls : List Call
  outerDepth : Nat
  outer : List Waiting
  iters : List (Option LoopIter)

/-- The machine is at the instruction `ip` with some values on its stack, in the
state `s`. -/
structure At (m : Machine ω) (site : Site) (ip : Nat) (stack : List Value) (s : State ω) : Prop where
  loaded : m.level.loaded = site.loaded
  calls : m.level.calls.map Call.blank = site.calls
  outerDepth : m.level.outerDepth = site.outerDepth
  outer : m.outer.map Waiting.blank = site.outer
  iters : m.level.scope.iters = site.iters
  ip : m.level.ip = ip
  stack : m.level.stack = stack
  scope : m.level.scope.plain = s.scope
  captures : m.captures = s.captures
  accepted : m.accepted = s.accepted
  surroundings : m.surroundings = s.surroundings

/-- The outcome is what an action fails with that ran inside of some levels. -/
structure Fails (o : Outcome ω) (outer : List Waiting) (e : RuntimeError) (s : State ω) : Prop where
  error : o.error.map RuntimeError.unplaced = some (e.aroundAll outer).unplaced
  accepted : o.accepted = s.accepted
  surroundings : o.surroundings = s.surroundings

/-- The machine does what has come of an action. -/
def Leads (env : Environment ω) (outer : List Waiting) (fuel : Nat) (m : Machine ω)
    (post : α → State ω → Machine ω → Prop) : Option (Except RuntimeError α × State ω) → Prop
  | none => ∃ n m', fuel ≤ n ∧ m.Reaches env n m'
  | some (.ok a, s) => ∃ n m', m.Reaches env n m' ∧ post a s m'
  | some (.error e, s) =>
    ∃ n m' o, m.Reaches env n m' ∧ m'.step env = .inr o ∧ Fails o outer e s

namespace Leads

variable {env : Environment ω} {outer : List Waiting} {fuel more : Nat} {m m' : Machine ω}
  {post : α → State ω → Machine ω → Prop} {post' : β → State ω → Machine ω → Prop}
  {s : State ω}

theorem pure {a : α} (h : post a s m) : Leads env outer fuel m post (some (.ok a, s)) :=
  ⟨0, m, .refl m, h⟩

theorem mono {r : Option (Except RuntimeError α × State ω)} (h : Leads env outer more m post r)
    (le : fuel ≤ more) : Leads env outer fuel m post r := by
  match r, h with
  | none, ⟨n, m', enough, reaches⟩ => exact ⟨n, m', Nat.le_trans le enough, reaches⟩
  | some (.ok _, _), h => exact h
  | some (.error _, _), h => exact h

/-- A step in front counts for one unit of fuel. -/
theorem step {r : Option (Except RuntimeError α × State ω)} (first : m.step env = .inl m')
    (h : Leads env outer fuel m' post r) : Leads env outer (fuel + 1) m post r := by
  match r, h with
  | none, ⟨n, m'', enough, reaches⟩ =>
    exact ⟨n + 1, m'', Nat.add_le_add_right enough 1, .step first reaches⟩
  | some (.ok _, _), ⟨n, m'', reaches, after⟩ => exact ⟨n + 1, m'', .step first reaches, after⟩
  | some (.error _, _), ⟨n, m'', o, reaches, last, fails⟩ =>
    exact ⟨n + 1, m'', o, .step first reaches, last, fails⟩

theorem after {n : Nat} {r : Option (Except RuntimeError α × State ω)}
    (first : m.Reaches env n m') (h : Leads env outer fuel m' post r) :
    Leads env outer fuel m post r := by
  induction first with
  | refl => exact h
  | step first _ ih => exact (step first (ih h)).mono (Nat.le_succ fuel)

/-- An action after what has led to a value. -/
theorem andThen {a : α} {r : Option (Except RuntimeError β × State ω)}
    (h : Leads env outer fuel m post (some (.ok a, s)))
    (next : ∀ m', post a s m' → Leads env outer fuel m' post' r) :
    Leads env outer fuel m post' r := by
  obtain ⟨n, m', reaches, there⟩ := h
  exact after reaches (next m' there)

/-- One action after the other. -/
theorem bind {x : Action ω α} {f : α → Action ω β} (h : Leads env outer fuel m post (x s))
    (next : ∀ a s' m', post a s' m' → Leads env outer fuel m' post' (f a s')) :
    Leads env outer fuel m post' ((x >>= f) s) := by
  change Leads env outer fuel m post' (match x s with
    | none => none
    | some (.ok a, s) => f a s
    | some (.error e, s) => some (.error e, s))
  match x s, h with
  | none, h => exact h
  | some (.ok a, s'), ⟨n, m', reaches, after⟩ => exact .after reaches (next a s' m' after)
  | some (.error e, s'), h => exact h

/-- One more step after an action. -/
theorem extend {post' : α → State ω → Machine ω → Prop}
    {r : Option (Except RuntimeError α × State ω)} (h : Leads env outer fuel m post r)
    (last : ∀ a s' m', post a s' m' → ∃ m'', m'.step env = .inl m'' ∧ post' a s' m'') :
    Leads env outer fuel m post' r := by
  match r, h with
  | none, h => exact h
  | some (.ok a, s'), ⟨n, m', reaches, there⟩ =>
    obtain ⟨m'', step, after⟩ := last a s' m' there
    exact ⟨n + 1, m'', reaches.trans (.single step), after⟩
  | some (.error e, s'), h => exact h

end Leads

/-- Aborting a machine gives the error of the action to the levels around. -/
theorem fails_abort {m : Machine ω} {outer : List Waiting} {e e' : RuntimeError} {s : State ω}
    (levels : m.outer.map Waiting.blank = outer) (same : e.unplaced = e'.unplaced)
    (accepted : m.accepted = s.accepted) (surroundings : m.surroundings = s.surroundings) :
    Fails (m.abort e) outer e' s where
  error := by
    have error : (m.abort e).error = some (e.aroundAll m.outer) := rfl
    rw [error, Option.map_some, RuntimeError.unplaced_aroundAll, RuntimeError.unplaced_aroundAll,
      same, ← levels, RuntimeError.aroundAll_map_blank]
  accepted := accepted
  surroundings := surroundings

/-- The site runs the template of the place, whose code is `full`. -/
structure Fits (site : Site) (place : Place) (full : List SourceOp) : Prop where
  loaded : site.loaded = place.current.loaded
  program : place.current.program = .ofOps place.current.template.name full
  macros : ∀ n : Nat, Option.Rel (Routine.Located place.current.options full)
    place.current.template.routines[n]? place.current.program.macros[n]?
  depth : site.calls.length + site.outerDepth = place.depth
  includeDepth : site.outer.length = place.includeDepth

/-- The surroundings of the machine without a bound on its steps. -/
abbrev Setting.env (setting : Setting ω) : Environment ω := setting.environment.unbounded

/-- The machine before an instruction, after the step has been counted. -/
def counting (m : Machine ω) (level : Level) : Machine ω :=
  { m with level := level, steps := m.steps + 1 }

section

variable {setting : Setting ω} {m : Machine ω} {site : Site} {place : Place}
  {full rest : List SourceOp} {ip next : Nat} {stack : List Value} {s : State ω}
  {op : SourceOp} {fuel : Nat}

theorem At.step_eq (here : At m site ip stack s) (fits : Fits site place full)
    (code : CodeAt full ip (op :: rest)) :
    m.step setting.env = (counting m m.level).perform setting.env
      (m.level.execute setting.options (op.resolved (macrosBefore full ip))) := by
  have program : m.level.loaded.program = .ofOps place.current.template.name full := by
    rw [here.loaded, fits.loaded]
    exact fits.program
  have piece : CodeAt full m.level.ip [op] := here.ip ▸ code.head
  have fetched := Level.fetch_ofOps program piece
  rw [here.ip] at fetched
  have free : Machine.exhausted? setting.env.options m.steps = none := rfl
  have options : m.level.execute setting.env.options (op.resolved (macrosBefore full ip))
      = m.level.execute setting.options (op.resolved (macrosBefore full ip)) :=
    @Machine.execute_unbounded _ setting.environment m.level _
  simp only [Machine.step, free, fetched, options]
  rfl

theorem At.step_next {l : Level} (here : At m site ip stack s) (fits : Fits site place full)
    (code : CodeAt full ip (op :: rest))
    (executes : m.level.execute setting.options (op.resolved (macrosBefore full ip)) = .next l) :
    m.step setting.env = .inl (counting m l) := by
  rw [here.step_eq fits code, executes]
  rfl

/-- An operation that goes on. -/
theorem At.leads_next {post : α → State ω → Machine ω → Prop} {l : Level}
    {r : Option (Except RuntimeError α × State ω)}
    (here : At m site ip stack s) (fits : Fits site place full)
    (code : CodeAt full ip (op :: rest))
    (executes : m.level.execute setting.options (op.resolved (macrosBefore full ip)) = .next l)
    (h : Leads setting.env site.outer fuel (counting m l) post r) :
    Leads setting.env site.outer (fuel + 1) m post r :=
  .step (here.step_next fits code executes) h

/-- An operation that fails. -/
theorem At.leads_fail {post : α → State ω → Machine ω → Prop} {l : Level}
    {e e' : RuntimeError} (here : At m site ip stack s) (fits : Fits site place full)
    (code : CodeAt full ip (op :: rest))
    (executes : m.level.execute setting.options (op.resolved (macrosBefore full ip)) = .fail e l)
    (same : e.unplaced = e'.unplaced) :
    Leads setting.env site.outer fuel m post (some (.error e', s)) := by
  refine ⟨0, m, (counting m l).abort e, .refl m, ?_,
    fails_abort here.outer same here.accepted here.surroundings⟩
  rw [here.step_eq fits code, executes]
  rfl

/-- An operation that takes operands and makes a value of them. -/
theorem At.leads_yield (operands : List Value) {value : Value}
    (here : At m site ip (operands ++ stack) s) (fits : Fits site place full)
    (code : CodeAt full ip (op :: rest)) (e : next = ip + 1)
    (executes : m.level.execute setting.options (op.resolved (macrosBefore full ip))
      = { m.level with stack := stack }.yield value) :
    Leads setting.env site.outer fuel m (fun value s' m' => At m' site next (value :: stack) s')
      (some (.ok value, s)) := by
  refine Leads.mono (here.leads_next fits code executes ?_) (Nat.le_succ fuel)
  exact .pure { here with ip := by rw [e, ← here.ip]; rfl, stack := rfl }

/-- An operation that takes operands and makes a value of them, or fails. -/
theorem At.leads_compute (operands : List Value) {result : Except TypeFault Value}
    (here : At m site ip (operands ++ stack) s) (fits : Fits site place full)
    (code : CodeAt full ip (op :: rest)) (e : next = ip + 1)
    (executes : m.level.execute setting.options (op.resolved (macrosBefore full ip))
      = { m.level with stack := stack }.finishWith result) :
    Leads setting.env site.outer fuel m (fun value s' m' => At m' site next (value :: stack) s')
      (Action.ofFault result s) := by
  cases result with
  | error fault => exact here.leads_fail fits code executes rfl
  | ok value => exact here.leads_yield operands fits code e executes

theorem At.leads_lookup {name : String} (here : At m site ip stack s) (fits : Fits site place full)
    (code : CodeAt full ip (.loadVar name :: rest)) (e : next = ip + 1) :
    Leads setting.env site.outer fuel m (fun value s' m' => At m' site next (value :: stack) s')
      (Action.lookup setting.options.strictVariables name s) := by
  have looked : m.level.scope.lookup name = s.scope.lookup name := by
    rw [← here.scope, Scope.lookup_plain]
  rw [Action.lookup, Action.inspect_bind]
  cases found : s.scope.lookup name with
  | some value =>
    refine here.leads_yield [] fits code e ?_
    simp [Op.resolved, Level.execute, looked, found, ← here.stack]
  | none =>
    cases strict : setting.options.strictVariables with
    | true =>
      have executes : m.level.execute setting.options (.loadVar name)
          = .fail (.unbound m.level.ip name) m.level := by
        simp [Level.execute, looked, found, strict]
      exact here.leads_fail fits code executes rfl
    | false =>
      refine here.leads_yield [] fits code e ?_
      simp [Op.resolved, Level.execute, looked, found, strict, ← here.stack]

theorem At.exists_jump (setting : Setting ω) {target : Nat} (here : At m site ip stack s) (fits : Fits site place full)
    (code : CodeAt full ip (.jump target :: rest)) :
    ∃ m', m.step setting.env = .inl m' ∧ At m' site target stack s :=
  ⟨_, here.step_next fits code rfl, { here with ip := rfl }⟩

/-- What has been written does not matter for where a machine is. -/
theorem At.transfer {m' : Machine ω} {s' : State ω} (here : At m site ip stack s)
    (level : m'.level.blank = m.level.blank)
    (outer : m'.outer.map Waiting.blank = m.outer.map Waiting.blank) (scope : s'.scope = s.scope)
    (captures : m'.captures = s'.captures) (accepted : m'.accepted = s'.accepted)
    (surroundings : m'.surroundings = s'.surroundings) : At m' site ip stack s' where
  loaded := (congrArg Level.loaded level).trans here.loaded
  calls := (congrArg Level.calls level).trans here.calls
  outerDepth := (congrArg Level.outerDepth level).trans here.outerDepth
  outer := outer.trans here.outer
  iters := (congrArg (fun l => l.scope.iters) level).trans here.iters
  ip := (congrArg Level.ip level).trans here.ip
  stack := (congrArg Level.stack level).trans here.stack
  scope := (congrArg (fun l => l.scope.plain) level).trans (here.scope.trans scope.symm)
  captures := captures
  accepted := accepted
  surroundings := surroundings

theorem perform_write {env : Environment ω} {m₁ m' : Machine ω} {level : Level} {text : String}
    (written : ({ m₁ with level := level } : Machine ω).write env.sink text = .ok m') :
    m₁.perform env (.write text level) = .inl { m' with level := m'.level.advance } := by
  rw [Machine.perform, written]

theorem perform_write_refused {env : Environment ω} {m₁ : Machine ω} {level : Level}
    {text reason : String}
    (refused : ({ m₁ with level := level } : Machine ω).write env.sink text = .error reason) :
    m₁.perform env (.write text level)
      = .inr (({ m₁ with level := level } : Machine ω).abort (.output reason)) := by
  rw [Machine.perform, refused]

theorem At.leads_print {mode : OutputMode} {value : Value}
    (here : At m site ip (value :: stack) s) (fits : Fits site place full)
    (code : CodeAt full ip (.print mode :: rest)) (e : next = ip + 1) :
    Leads setting.env site.outer fuel m (fun _ s' m' => At m' site next stack s')
      (Action.write setting.sink (value.output (mode == .html)) s) := by
  have executes : m.level.execute setting.options
        ((Op.print mode : SourceOp).resolved (macrosBefore full ip))
      = .write (value.output (mode == .html)) { m.level with stack := stack } := by
    simp [Op.resolved, Level.execute, Level.pop1, here.stack]
  have step : m.step setting.env = _ := here.step_eq fits code
  rw [executes] at step
  generalize value.output (mode == .html) = text at step ⊢
  let m₁ : Machine ω := counting m { m.level with stack := stack }
  have before : At m₁ site ip stack s := { here with stack := rfl }
  unfold Action.write
  cases captures : s.captures with
  | nil =>
    have none : m₁.captures = [] := before.captures.trans captures
    dsimp only
    cases decided : setting.sink s.accepted text with
    | some reason =>
      have refused := Machine.write_refused none (before.accepted ▸ decided)
      exact ⟨0, m, _, .refl m, step.trans (perform_write_refused refused),
        fails_abort before.outer rfl before.accepted before.surroundings⟩
    | none =>
      obtain ⟨m₂, written, after, accepted, same⟩ :=
        Machine.exists_write_of_captures_nil none (before.accepted ▸ decided)
      have step := step.trans (perform_write written)
      have there : At m₂ site ip stack { s with captures := [], accepted := text :: s.accepted } :=
        before.transfer same.level same.outer rfl after
          (accepted.trans (congrArg _ before.accepted)) (same.surroundings.trans before.surroundings)
      exact ⟨1, _, .single step, { there with ip := by rw [e, ← there.ip]; rfl }⟩
  | cons texts others =>
    obtain ⟨m₂, written, after, accepted, same⟩ :=
      m₁.exists_write_of_captures_cons setting.sink text (before.captures.trans captures)
    have step := step.trans (perform_write written)
    have there : At m₂ site ip stack { s with captures := (text :: texts) :: others } :=
      before.transfer same.level same.outer rfl after (accepted.trans before.accepted)
        (same.surroundings.trans before.surroundings)
    exact ⟨1, _, .single step, { there with ip := by rw [e, ← there.ip]; rfl }⟩

end

end Meaning
end TemplateEngine
