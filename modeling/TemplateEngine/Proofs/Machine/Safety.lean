import Mathlib.Data.Set.Defs
import TemplateEngine.Proofs.Machine.Returns
import TemplateEngine.Proofs.Scope.Leaves

/-!
# Any program is safe to execute

Programs come from files as well as from the compiler, and they may jump anywhere.
Whatever they do, their frames and calls stay in order. A program that passes the
check never runs out of its instructions, and the only defects that it can show are
that it takes values that are not there and that it returns without a call.
-/

namespace TemplateEngine

/-- A macro of one of the programs is one that the program has. -/
def Value.InRange (programs : Set Loaded) : Value → Prop
  | .macroRef ref =>
    ∀ loaded ∈ programs, ref.program = loaded.id → ref.index < loaded.program.macros.size
  | _ => True

/-- Programs with the same identity are the same. -/
def Coherent (programs : Set Loaded) : Prop := ∀ a ∈ programs, ∀ b ∈ programs, a.id = b.id → a = b

/-- A level of a checked program that has only macros that there are. -/
structure Level.Sheltered (programs : Set Loaded) (l : Level) : Prop where
  member : l.loaded ∈ programs
  checked : l.loaded.program.Checked
  values : l.All (Value.InRange programs)
  returns : ∀ place ∈ l.calls.map Call.returnTo, place < l.loaded.program.instructions.size

/-- A level that is within its program, or will be when it goes on. -/
structure Level.Bounded (programs : Set Loaded) (ahead : Nat) (l : Level) : Prop
    extends l.Sheltered programs where
  inside : l.ip + ahead < l.loaded.program.instructions.size

/-- The level is within its program. -/
def Level.InProgram (l : Level) : Prop := l.ip < l.loaded.program.instructions.size

variable {programs : Set Loaded} {options : ExecutionOptions} {l l' : Level}
  {op : Program.Resolved}

theorem coherent_singleton (loaded : Loaded) : Coherent {loaded} := by
  rintro _ rfl _ rfl _
  rfl

theorem Coherent.admits {loaded : Loaded} (coherent : Coherent programs)
    (member : loaded ∈ programs) : Level.Admits (Value.InRange programs) loaded := by
  refine ⟨?_, fun s => trivial, ?_⟩
  · intro v scalar
    cases v with
    | macroRef ref => cases scalar
    | _ => trivial
  · intro index callee closure found other known same
    obtain rfl := coherent loaded member other known same
    rw [(Program.of_macroAt found).1]
    exact Program.macroAt_eq_ok_iff.mp ⟨callee, found⟩

namespace Level

theorem bounded_start {loaded : Loaded} {vars : Vars} (member : loaded ∈ programs)
    (checked : loaded.program.Checked) (given : Bindings.All (Value.InRange programs) vars)
    (depth : Nat) : (Level.start loaded vars depth).Bounded programs 0 :=
  ⟨⟨member, checked, all_start given depth, nofun⟩, checked.size_pos⟩

/-- There is an instruction behind each one that lets the level go on. -/
theorem Sheltered.succ_lt (h : l.Sheltered programs) (fetched : l.fetch = .ok op)
    (goes : op ≠ .finish) : l.ip + 1 < l.loaded.program.instructions.size := by
  obtain ⟨i, at_ip, resolved⟩ := fetch_eq_ok.mp fetched
  refine h.checked.succ_lt at_ip fun ends => goes ?_
  exact (Program.standsFor_of_resolve resolved).finish.mpr ends

theorem Sheltered.target_lt (h : l.Sheltered programs) (fetched : l.fetch = .ok op) {t : Nat}
    (target : op.target? = some t) : t < l.loaded.program.instructions.size := by
  obtain ⟨i, at_ip, resolved⟩ := fetch_eq_ok.mp fetched
  apply h.checked.targets i (Array.mem_of_getElem? at_ip) t
  rw [← (Program.standsFor_of_resolve resolved).target]
  exact target

/-- Where a level goes on after an operation is within the program. -/
theorem Bounded.next (h : l.Bounded programs 0) (coherent : Coherent programs)
    (fetched : l.fetch = .ok op) (does : l.Does options op (.next l')) : l'.Bounded programs 0 := by
  have values := h.values.next ((coherent.admits h.member).at fetched) does
  have behind := h.succ_lt fetched
  have aimed := @Sheltered.target_lt _ _ _ h.toSheltered fetched
  cases does with
  | make _ _ makes =>
    exact ⟨{ h with values := values }, behind (by rintro rfl; cases makes)⟩
  | drop | store | pass | startLoop | round =>
    exact ⟨{ h with values := values }, behind nofun⟩
  | undecided _ _ which =>
    refine ⟨{ h with values := values }, behind ?_⟩
    rintro rfl
    simp at which
  | jump | skip | endLoop => exact ⟨{ h with values := values }, aimed rfl⟩
  | decided _ which =>
    refine ⟨{ h with values := values }, aimed ?_⟩
    rcases which with ⟨rfl, -⟩ | ⟨rfl, -⟩ <;> rfl
  | enterMacro _ _ _ found =>
    refine ⟨{ h with values := values, returns := ?_ }, ?_⟩
    · exact List.forall_mem_cons.mpr ⟨behind nofun, h.returns⟩
    · exact h.checked.entries _ (Program.of_macroAt found).2
  | leaveMacro calling =>
    have returns := h.returns
    rw [calling] at returns
    obtain ⟨back, returns⟩ := List.forall_mem_cons.mp returns
    exact ⟨{ h with values := values, returns := returns }, back⟩

theorem Bounded.pause (h : l.Bounded programs 0) (fetched : l.fetch = .ok op) (goes : op ≠ .finish)
    (taken : List Value) {stack : List Value} (eq : l.stack = taken ++ stack) :
    ({ l with stack := stack } : Level).Bounded programs 1 :=
  ⟨{ h with values := h.values.left taken eq }, h.succ_lt fetched goes⟩

theorem bounded_law (coherent : Coherent programs) (options : ExecutionOptions)
    (region : Level → Prop) :
    LevelLaw options region (Level.Bounded programs 0) (Level.Bounded programs 1) where
  next h fetched does _ := h.next coherent fetched does
  write h fetched does := by
    cases does with
    | print taken => exact h.pause fetched nofun [_] taken
  enter h fetched does := by
    cases does with
    | inclusion taken => exact h.pause fetched nofun [_, _] taken
  resume h := { h with values := ⟨h.values.stack, h.values.scope⟩ }
  blank := by
    intro l l' same h
    have loaded : l'.loaded = l.loaded := (congrArg Level.loaded same :)
    have ip : l'.ip = l.ip := (congrArg Level.ip same :)
    have stack : l'.stack = l.stack := (congrArg Level.stack same :)
    have scope : l'.scope = l.scope := (congrArg Level.scope same :)
    have calls : l'.calls.map Call.returnTo = l.calls.map Call.returnTo := by
      have blank := congrArg (fun l => l.calls.map Call.returnTo) same
      simpa [Level.blank, Function.comp_def, Call.blank] using blank
    constructor
    · constructor
      · exact loaded ▸ h.member
      · exact loaded ▸ h.checked
      · exact ⟨stack ▸ h.values.stack, scope ▸ h.values.scope⟩
      · rw [calls, loaded]
        exact h.returns
    · rw [ip, loaded]
      exact h.inside

/-- The defects that a level of a checked program with frames in order can show. -/
theorem Bounded.defects (h : l.Bounded programs 0) (framed : l.Framed) {ip : Nat}
    {d : ProgramDefect} (breaks : l.Breaks op (.malformed ip d)) :
    d = .stackUnderflow ∨ d = .returnOutsideCall := by
  cases breaks with
  | underflow => exact .inl rfl
  | outsideCall => exact .inr rfl
  | popRoot running stuck => exact (Scope.pop_ne_error (framed.tree.depth_of_loop running) stuck).elim
  | @callee count args ref stack fault taken size own missing =>
    have ranged : (Value.macroRef ref).InRange programs := by
      apply Value.all_macroRef.mp
      apply h.values.stack
      rw [taken]
      exact List.mem_append_right _ (List.mem_cons_self ..)
    obtain ⟨callee, found⟩ := Program.macroAt_eq_ok_iff.mpr (ranged l.loaded h.member own)
    cases found.symm.trans missing

end Level

namespace Machine

variable {ω : Type} {env : Environment ω} {m m' : Machine ω}

theorem Executes.framed {loaded : Loaded} {vars : Vars} {depth : Nat}
    (begins : m.level = .start loaded vars depth) (h : m.Executes env m') :
    m'.Follows m.outer.length Level.Framed Level.Framed := by
  apply h.follows (Level.framed_law env.options _)
  rw [begins]
  exact Level.framed_start loaded vars depth

theorem Executes.bounded {loaded : Loaded} {vars : Vars} {depth : Nat}
    (begins : m.level = .start loaded vars depth) (checked : loaded.program.Checked)
    (given : Bindings.All (Value.InRange {loaded}) vars) (h : m.Executes env m') :
    m'.Follows m.outer.length (Level.Bounded {loaded} 0) (Level.Bounded {loaded} 1) := by
  apply h.follows (Level.bounded_law (coherent_singleton loaded) env.options _)
  rw [begins]
  have member : loaded ∈ ({loaded} : Set Loaded) := rfl
  exact Level.bounded_start member checked given depth

/-- While a checked program is executed it can show two defects only. -/
theorem Executes.defects {loaded : Loaded} {vars : Vars} {depth : Nat}
    (begins : m.level = .start loaded vars depth) (checked : loaded.program.Checked)
    (given : Bindings.All (Value.InRange {loaded}) vars) (h : m.Executes env m')
    (here : m'.outer.length = m.outer.length) {ip : Nat} {d : ProgramDefect}
    (fails : m'.FailsWith env (.malformed ip d)) : d = .stackUnderflow ∨ d = .returnOutsideCall := by
  have bounded := (h.bounded begins checked given).of_depth here
  rcases fails.cases (.malformed ip d) with ⟨d', missing, -⟩ | ⟨op, -, breaks⟩
  · obtain ⟨op, fetched⟩ := Level.exists_fetch bounded.checked bounded.inside
    cases fetched.symm.trans missing
  · exact bounded.defects ((h.framed begins).of_depth here) breaks

/-- Any program can be executed safely, on its own or included at any level. Frames
and calls stay in order, the root frame stays, and each return leaves the scope as
deep as its call found it. A program that passes the check, as each one read from a
file does, stays within its instructions and can only miss values or a call. -/
theorem execution_safe {m : Machine ω} {loaded : Loaded} {vars : Vars} {depth : Nat}
    (begins : m.level = .start loaded vars depth) :
    (∀ m', m.Executes env m' →
      m'.Follows m.outer.length Level.Consistent Level.Consistent ∧
      (m'.outer.length = m.outer.length →
        (∀ ip, ¬ m'.FailsWith env (.malformed ip .popRoot)) ∧
        (m'.level.fetch = .ok .macroReturn → m'.level.calls ≠ [] →
          ∃ m₀, m.Executes env m₀ ∧ m₀.ReturnsAt env m' ∧
            ∀ m'', m'.step env = .inl m'' →
              m''.level.scope.depth = m₀.level.scope.depth))) ∧
    (loaded.program.check = .ok () → Bindings.All (Value.InRange {loaded}) vars →
      (∀ m', m.Executes env m' →
        m'.Follows m.outer.length Level.InProgram Level.InProgram ∧
        (m'.outer.length = m.outer.length → ∀ ip d, m'.FailsWith env (.malformed ip d) →
          d = .stackUnderflow ∨ d = .returnOutsideCall)) ∧
      (m.outer = [] → ∀ fuel o ip d, run env fuel m = some o → o.error = some (.malformed ip d) →
        d = .stackUnderflow ∨ d = .returnOutsideCall)) ∧
    ∀ name bytes stored, CacheFile.read name bytes = .found stored →
      stored.program.check = .ok () := by
  refine ⟨?_, ?_, ?_⟩
  · intro m' h
    have framed := h.framed begins
    refine ⟨framed.imp (fun _ => Level.Framed.consistent) (fun _ => Level.Framed.consistent), ?_⟩
    intro here
    have ordered := framed.of_depth here
    constructor
    · intro ip fails
      rcases fails.cases (.malformed ip _) with ⟨d, missing, same⟩ | ⟨op, -, breaks⟩
      · cases same
        unfold Level.fetch at missing
        split at missing
        · cases missing
        · split at missing <;> cases missing
      · exact ordered.not_popRoot breaks
    · intro leaves called
      obtain ⟨m₀, early, returns⟩ := exists_returnsAt begins h here leaves called
      exact ⟨m₀, early, returns, fun m'' step => (returns.restores ordered step).1⟩
  · intro check given
    have checked := Program.check_eq_ok_iff.mp check
    constructor
    · intro m' h
      have bounded := h.bounded begins checked given
      refine ⟨bounded.imp (fun l h => h.inside) (fun l h => Nat.lt_of_succ_lt h.inside), ?_⟩
      intro here ip d fails
      exact h.defects begins checked given here fails
    · intro outermost fuel o ip d ended error
      obtain ⟨n, m', -, reaches, last⟩ := run_eq_some_iff.mp ended
      obtain ⟨here, fails⟩ := failsWith_of_defect last error (.malformed ip d)
      have executes : m.Executes env m' := by
        apply reaches.through
        intro m₁
        rw [outermost]
        exact Nat.zero_le _
      exact executes.defects begins checked given (by rw [here, outermost]) fails
  · intro name bytes stored read
    exact Program.check_eq_ok_iff.mpr (CacheFile.checked_of_read read)

end Machine

namespace ReturnFromLoop

/-- A program that no template has: its macro returns while it is in a loop. -/
def program : Program where
  name := "stray"
  constants := #[]
  names := #[]
  macros := #[⟨"m", [], 1⟩]
  instructions := #[.jump 4, .makeList 0, .forStart, .macroReturn, .makeMacro 0, .macroCall 0,
    .print .html, .finish]

def environment : Environment Unit where
  options := {}
  source := none
  sink := .unlimited

def first : Machine Unit := .start ⟨0, program⟩ [] ()

theorem execution_safe_stray :
    (Machine.run environment 10 first).map (fun o => (o.error.isNone, o.level.scope.depth))
        = some (true, 1) ∧
      ∀ m, first.Executes environment m → m.Follows 0 Level.Consistent Level.Consistent ∧
        m.Follows 0 Level.InProgram Level.InProgram := by
  refine ⟨by decide +kernel, ?_⟩
  intro m executes
  have safe := @Machine.execution_safe _ environment first _ _ _ rfl
  have bounded := safe.2.1 rfl nofun
  exact ⟨(safe.1 m executes).1, (bounded.1 m executes).1⟩

end ReturnFromLoop
end TemplateEngine
