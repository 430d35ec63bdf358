import TemplateEngine.Proofs.Machine.Balanced
import TemplateEngine.Proofs.Machine.Safety
import TemplateEngine.Proofs.Program.Closed

/-!
# Compiled programs keep the stack discipline

A run of compiled programs shows no defect, at any level. Each macro returns with the
stack as its call left it, and each template ends with all that it has entered left.
-/

namespace TemplateEngine

/-- A compiler made the program. -/
def Program.IsCompiled (p : Program) : Prop :=
  ∃ (t : Template) (options : CompileOptions) (source : String), t.compile options source = .ok p

/-- The value is no macro of one of the programs. -/
def Value.IsForeign (programs : Set Loaded) : Value → Prop
  | .macroRef ref => ∀ loaded ∈ programs, ref.program ≠ loaded.id
  | _ => True

theorem Value.IsForeign.inRange {programs : Set Loaded} {value : Value}
    (h : value.IsForeign programs) : value.InRange programs := by
  cases value with
  | macroRef ref => exact fun loaded member same => absurd same (h loaded member)
  | _ => trivial

namespace Machine

variable {ω : Type}

/-- The programs that run, at any level, in a run that starts here. -/
def programs (env : Environment ω) (first : Machine ω) : Set Loaded :=
  {loaded | ∃ n m, first.Reaches env n m ∧ m.level.loaded = loaded}

/-- What holds wherever a run of compiled programs comes to. -/
structure Disciplined (env : Environment ω) (first m : Machine ω) : Prop where
  sound : ∀ e, m.FailsWith env e → ¬ e.IsDefect
  /-- A macro that returns was called in the run. -/
  called : m.level.fetch = .ok .macroReturn →
    ∃ n m₀, first.Reaches env n m₀ ∧ m₀.ReturnsAt env m
  /-- The stack is as the call left it, and the scope will be as the call found it. -/
  returns : ∀ n m₀, first.Reaches env n m₀ → m₀.ReturnsAt env m →
    (∀ m₁, m₀.step env = .inl m₁ → m.level.stack.length = m₁.level.stack.length) ∧
    ∀ m', m.step env = .inl m' → m'.level.scope.depth = m₀.level.scope.depth
  ends : m.level.fetch = .ok .finish →
    m.level.stack = [] ∧ m.level.scope.depth = 1 ∧ m.level.calls = [] ∧ m.level.captures = []

variable {env : Environment ω} {m m' : Machine ω}

/-- Each level that runs is the first one, or it was started in the run. -/
theorem exists_entry {n : Nat} {first : Machine ω} (root : first.outer = [])
    (reaches : first.Reaches env n m) :
    ∃ k m₀, first.Reaches env k m₀ ∧ m₀.Executes env m ∧ m.outer.length = m₀.outer.length ∧
      (m₀ = first ∨ ∃ j m₁, first.Reaches env j m₁ ∧ m₁.Starts env m₀) := by
  have through := reaches.through (P := fun _ => True) fun _ => trivial
  rcases through.through_or_entry (P := fun m₁ => m.outer.length ≤ m₁.outer.length)
    (Nat.le_refl _) with all | ⟨m₁, m₂, early, before, next, later⟩
  · have same : m.outer.length = first.outer.length := by
      have none : first.outer.length = 0 := by rw [root]; rfl
      exact Nat.le_antisymm all.first (none ▸ Nat.zero_le _)
    refine ⟨0, first, .refl _, ?_, same, .inl rfl⟩
    rwa [same] at all
  · obtain ⟨k, reached⟩ := early.reaches
    have deep := later.first
    obtain ⟨op, effect, fetched, does, goes⟩ := exists_of_step next
    cases goes with
    | next level => exact absurd deep before
    | write written =>
      have same := congrArg List.length (sameButOutput_of_write written).outer
      simp only [List.length_map] at same
      exact absurd (same ▸ deep) before
    | enter source _ _ taken found =>
      have same : m.outer.length = m₁.outer.length + 1 :=
        Nat.le_antisymm deep (Nat.lt_of_not_le before)
      refine ⟨k + 1, _, reached.trans (.single next), ?_, same,
        .inr ⟨k, m₁, reached, .intro fetched does source taken found rfl rfl⟩⟩
      rwa [same] at later
    | leave outer =>
      refine absurd (Nat.le_trans deep ?_) before
      rw [show m₁.outer = _ from outer]
      exact Nat.le_succ _

/-- Each level that runs was started, in the run, with a program. -/
theorem exists_start {n : Nat} {loaded : Loaded} {vars : Vars} {surroundings : ω}
    (reaches : (start loaded vars surroundings).Reaches env n m) :
    ∃ k m₀ loaded' vars' depth, (start loaded vars surroundings).Reaches env k m₀ ∧
      m₀.level = .start loaded' vars' depth ∧ m₀.Executes env m ∧
      m.outer.length = m₀.outer.length := by
  obtain ⟨k, m₀, early, executes, here, origin⟩ := exists_entry rfl reaches
  rcases origin with rfl | ⟨j, m₁, -, -, -, -, -, -, begins, -⟩
  · exact ⟨k, _, loaded, vars, 0, early, rfl, executes, here⟩
  · exact ⟨k, m₀, _, _, _, early, begins, executes, here⟩

/-- What is known of the program of a level stays known. -/
theorem loaded_law (options : ExecutionOptions) (P : Loaded → Prop) :
    LevelLaw options (fun _ => True) (fun l => P l.loaded) (fun l => P l.loaded) := by
  refine ⟨?_, ?_, ?_, id, ?_⟩
  · intro l op l' h _ does _
    cases does <;> exact h
  · intro l op text l' h _ does
    cases does
    exact h
  · intro l op name args l' h _ does
    cases does
    exact h
  · intro l l' same h
    rwa [show l'.loaded = l.loaded from (congrArg Level.loaded same :)]

theorem Executes.loaded (h : m.Executes env m') (here : m'.outer.length = m.outer.length) :
    m'.level.loaded = m.level.loaded :=
  (h.follows (loaded_law env.options (· = m.level.loaded)) rfl).of_depth here

/-- What holds of the first program and of all that the source gives holds of all
programs that run. -/
theorem programs_have {P : Loaded → Prop} {loaded : Loaded} {vars : Vars} {surroundings : ω}
    (first : P loaded)
    (given : ∀ source, env.source = some source → ∀ name s found s',
      source name s = (.ok found, s') → P found) :
    ∀ found ∈ programs env (start loaded vars surroundings), P found := by
  rintro found ⟨n, m, reaches, rfl⟩
  have begins : (start loaded vars surroundings).Everywhere (fun l => P l.loaded)
      (fun l => P l.loaded) := ⟨first, nofun⟩
  refine (begins.reaches (loaded_law env.options P) ?_ reaches).level
  rintro k m₁ m₂ - - - ⟨-, -, source, -, found, started, -⟩
  rw [started]
  exact given _ source _ _ _ _ found

section

variable {loaded : Loaded} {vars : Vars} {surroundings : ω} {n : Nat}

/-- In a run of compiled programs each level that runs is balanced. -/
theorem balanced_of_reaches
    (compiled : ∀ found ∈ programs env (start loaded vars surroundings), found.program.IsCompiled)
    (reaches : (start loaded vars surroundings).Reaches env n m) :
    ∃ name full, WellCoded full ∧ m.level.Balanced name full .template := by
  obtain ⟨k, m₀, loaded', vars', depth, early, begins, executes, here⟩ := exists_start reaches
  obtain ⟨t, options, source, program⟩ := compiled loaded' ⟨k, m₀, early, by rw [begins]; rfl⟩
  obtain ⟨full, laid, coded⟩ := t.wellCoded_of_compile program
  refine ⟨t.name, full, coded, ?_⟩
  have law : LevelLaw env.options (fun _ => True) (Level.Balanced t.name full .template)
      (fun l => l.advance.Balanced t.name full .template) :=
    Level.balanced_law coded env.options fun l _ => Nat.zero_le _
  have runs : m₀.level.Balanced t.name full .template := by
    rw [begins]
    exact Level.balanced_start laid coded vars' depth
  exact (executes.follows law runs).of_depth here

/-- In a run of compiled programs each level stays within its program. -/
theorem bounded_of_reaches
    (compiled : ∀ found ∈ programs env (start loaded vars surroundings), found.program.IsCompiled)
    (distinct : Coherent (programs env (start loaded vars surroundings)))
    (foreign : Bindings.All (Value.IsForeign (programs env (start loaded vars surroundings))) vars)
    (reaches : (start loaded vars surroundings).Reaches env n m) :
    m.level.Bounded (programs env (start loaded vars surroundings)) 0 := by
  have checked : ∀ found ∈ programs env (start loaded vars surroundings), found.program.Checked := by
    intro found member
    obtain ⟨t, options, source, program⟩ := compiled found member
    exact t.checked_of_compile program
  have begins : (start loaded vars surroundings).Everywhere
      (Level.Bounded (programs env (start loaded vars surroundings)) 0)
      (Level.Bounded (programs env (start loaded vars surroundings)) 1) := by
    have member : loaded ∈ programs env (start loaded vars surroundings) := ⟨0, _, .refl _, rfl⟩
    refine ⟨Level.bounded_start member (checked _ member) ?_ 0, nofun⟩
    exact fun entry known leaf among => (foreign entry known leaf among).inRange
  refine (begins.reaches (Level.bounded_law distinct env.options _) ?_ reaches).level
  rintro k m₁ m₂ early everywhere first ⟨fetched, does, -, taken, -, started, -⟩
  have reached := early.trans (.single first)
  have member : m₂.level.loaded ∈ programs env (start loaded vars surroundings) :=
    ⟨_, m₂, reached, rfl⟩
  rw [started] at member ⊢
  refine Level.bounded_start member (checked _ member) ?_ _
  exact everywhere.level.values.given does taken

end

/-- Balanced levels with frames in order, within their program, show no defect. -/
theorem not_isDefect_of_failsWith {set : Set Loaded} {name : String} {full : List SourceOp}
    (bounded : m.level.Bounded set 0) (framed : m.level.Framed)
    (balanced : m.level.Balanced name full .template) {e : RuntimeError}
    (fails : m.FailsWith env e) : ¬ e.IsDefect := by
  intro defect
  rcases fails.cases defect with ⟨d, missing, -⟩ | ⟨op, fetched, breaks⟩
  · obtain ⟨op, fetched⟩ := Level.exists_fetch bounded.checked bounded.inside
    cases fetched.symm.trans missing
  · cases defect with
    | malformed ip d =>
      obtain ⟨underflow, outside, -⟩ := balanced.not_breaks fetched
      rcases bounded.defects framed breaks with rfl | rfl
      · exact underflow breaks
      · exact outside breaks
    | outsideLoop ip => exact (balanced.not_breaks fetched).2.2 breaks

/-- Every compiled program passes the check. A run of compiled programs, each with an
identity of its own, on variables without their macros keeps the stack discipline
wherever it comes to, and it does not end with a defect. -/
theorem compiled_disciplined :
    (∀ (t : Template) options source p, t.compile options source = .ok p → p.check = .ok ()) ∧
    ∀ {ω : Type} (env : Environment ω) (loaded : Loaded) (vars : Vars) (surroundings : ω),
      loaded.program.IsCompiled →
      (∀ source, env.source = some source → ∀ name s found s',
        source name s = (.ok found, s') → found.program.IsCompiled) →
      Coherent (programs env (start loaded vars surroundings)) →
      Bindings.All (Value.IsForeign (programs env (start loaded vars surroundings))) vars →
      (∀ n m, (start loaded vars surroundings).Reaches env n m →
        (start loaded vars surroundings).Disciplined env m) ∧
      ∀ fuel o e, run env fuel (start loaded vars surroundings) = some o → o.error = some e →
        ¬ e.IsDefect := by
  refine ⟨?_, ?_⟩
  · intro t options source p compiled
    exact Program.check_eq_ok_iff.mpr (t.checked_of_compile compiled)
  intro ω env loaded vars surroundings first_compiled loader distinct foreign
  have compiled : ∀ found ∈ programs env (start loaded vars surroundings),
      found.program.IsCompiled := programs_have first_compiled loader
  have disciplined : ∀ n m, (start loaded vars surroundings).Reaches env n m →
      (start loaded vars surroundings).Disciplined env m := by
    intro n m reaches
    have bounded := bounded_of_reaches compiled distinct foreign reaches
    have framed := (framed_of_reaches reaches).level
    obtain ⟨name, full, coded, balanced⟩ := balanced_of_reaches compiled reaches
    refine ⟨fun e fails => not_isDefect_of_failsWith bounded framed balanced fails, ?_, ?_, ?_⟩
    · intro leaves
      obtain ⟨k, m₀, loaded', vars', depth, early, begins, executes, here⟩ := exists_start reaches
      obtain ⟨m₁, called, returns⟩ :=
        exists_returnsAt begins executes here leaves (balanced.calls_ne_nil leaves)
      obtain ⟨j, later⟩ := called.reaches
      exact ⟨k + j, m₁, early.trans later, returns⟩
    · intro k m₀ early returns
      obtain ⟨name₀, full₀, coded₀, balanced₀⟩ := balanced_of_reaches compiled early
      obtain ⟨count, call, height⟩ := returns.balanced coded₀ balanced₀
      refine ⟨?_, fun m' step => (returns.restores framed step).1⟩
      intro m₁ step
      obtain ⟨args, ref, stack, callee, scope, taken, size, -, -, -, rfl⟩ := step_call call step
      simp only [taken, List.length_append, List.length_cons, size] at height
      simp only
      omega
    · intro finishes
      obtain ⟨stack, depth, calls⟩ := balanced.finish finishes
      exact ⟨stack, depth, calls, by simp [Level.captures, calls]⟩
  refine ⟨disciplined, ?_⟩
  intro fuel o e ended error defect
  obtain ⟨n, m, -, reaches, last⟩ := run_eq_some_iff.mp ended
  obtain ⟨-, fails⟩ := failsWith_of_defect last error defect
  exact (disciplined n m reaches).sound e fails defect

end Machine

namespace Table

/-- A page with a macro that runs a loop, and a template that it includes. -/
def page : Template where
  name := "page"
  body := [
    .define "row" [("items", ⟨12, 17⟩)] [.foreach "item" (.var "items") [.print (.var "item")]],
    .print (.call (.var "row") [.list [.literal (.int 1), .literal (.int 2)]]),
    .inclusion (.literal (.str "foot")) []]

def foot : Template := ⟨"foot", [.text "."]⟩

def pageProgram : Loaded where
  id := 0
  program := {
    name := "page"
    constants := #[.int 1, .int 2, .str "foot"]
    names := #["row", "items", "item"]
    macros := #[⟨"row", ["items"], 3⟩]
    instructions := #[.makeMacro 0, .storeVar 0, .jump 10, .loadVar 1, .forStart, .forIter 2 9,
      .loadVar 2, .print .html, .jump 5, .macroReturn, .loadVar 0, .constLoad 0, .constLoad 1,
      .makeList 2, .macroCall 1, .print .html, .constLoad 2, .makeMap 0, .inclusion, .finish] }

def footProgram : Loaded where
  id := 1
  program := {
    name := "foot"
    constants := #[.str "."]
    names := #[]
    macros := #[]
    instructions := #[.constLoad 0, .print .raw, .finish] }

def environment : Environment Unit where
  options := {}
  source := some fun _ s => (.ok footProgram, s)
  sink := .unlimited

def first : Machine Unit := .start pageProgram [] ()

theorem compiled_disciplined_page :
    (Machine.run environment 50 first).map (fun o => (o.output, o.error.isNone))
        = some ("12.", true) ∧
      ∀ n m, first.Reaches environment n m → first.Disciplined environment m := by
  have compiles : pageProgram.program.IsCompiled := ⟨page, ⟨true⟩, "", rfl⟩
  have given : ∀ source, environment.source = some source → ∀ name s found s',
      source name s = (.ok found, s') → found = footProgram := by
    rintro _ ⟨⟩ name s found s' ⟨⟩
    rfl
  have two : ∀ found ∈ Machine.programs environment first,
      found = pageProgram ∨ found = footProgram := by
    refine Machine.programs_have (.inl rfl) ?_
    exact fun source known name s found s' loads => .inr (given source known name s found s' loads)
  refine ⟨by decide +kernel, ?_⟩
  refine (Machine.compiled_disciplined.2 environment pageProgram [] () compiles ?_ ?_ nofun).1
  · intro source known name s found s' loads
    obtain rfl := given source known name s found s' loads
    exact ⟨foot, ⟨true⟩, "", rfl⟩
  · intro a ha b hb same
    rcases two a ha with rfl | rfl <;> rcases two b hb with rfl | rfl
    · rfl
    · cases same
    · cases same
    · rfl

end Table
end TemplateEngine
