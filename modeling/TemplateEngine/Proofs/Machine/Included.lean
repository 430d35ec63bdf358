import TemplateEngine.Proofs.Machine.Levels
import TemplateEngine.Proofs.Scope.Visible

/-!
# What an included template sees

A level runs in a scope that comes from a root frame by operations on scopes, so all that
is visible in it is what lookups find. An included template starts with that as its root
frame, and with the arguments of the inclusion in front of it. It resolves an argument to
the last value given for the name, and any other name as the including template does.
-/

namespace TemplateEngine

/-- The scope comes from a root frame by operations on scopes. -/
def Level.Scoped (l : Level) : Prop := ∃ vars : Vars, vars.Ordered ∧ l.scope.Reached vars

namespace Level

variable {options : ExecutionOptions} {l l' : Level} {op : Program.Resolved}

theorem scoped_start (loaded : Loaded) {vars : Vars} (ordered : vars.Ordered) (depth : Nat) :
    (Level.start loaded vars depth).Scoped :=
  ⟨vars, ordered, .root⟩

theorem Scoped.congr (h : l.Scoped) (same : l'.scope = l.scope) : l'.Scoped := by
  obtain ⟨vars, ordered, reached⟩ := h
  exact ⟨vars, ordered, same ▸ reached⟩

theorem Scoped.next (h : l.Scoped) (does : l.Does options op (.next l')) : l'.Scoped := by
  obtain ⟨vars, ordered, reached⟩ := h
  refine ⟨vars, ordered, ?_⟩
  cases does with
  | make | drop | jump | pass | skip | decided | undecided => exact reached
  | store => exact reached.bind _ _
  | startLoop => exact reached.pushChild.setIter _
  | round => exact ((reached.setIter _).bind _ _).bind _ _
  | endLoop _ _ popped => exact reached.pop popped
  | enterMacro _ _ _ _ _ _ pushed => exact (reached.pushWithParent pushed).bindAll _
  | leaveMacro => exact reached.truncate _

theorem scoped_law (options : ExecutionOptions) :
    LevelLaw options (fun _ => True) Level.Scoped Level.Scoped where
  next h _ does _ := h.next does
  write h _ does := by
    cases does
    exact h.congr rfl
  enter h _ does := by
    cases does
    exact h.congr rfl
  resume h := h.congr rfl
  blank same h := by
    have scope : _ = _ := congrArg Level.scope same
    exact h.congr scope

theorem Scoped.get?_visible (h : l.Scoped) (name : String) :
    l.scope.visible.get? name = l.scope.lookup name := by
  obtain ⟨vars, ordered, reached⟩ := h
  exact reached.get?_visible ordered name

end Level

namespace Machine

variable {ω : Type} {env : Environment ω} {m m' : Machine ω}

theorem ordered_includedVars {l : Level} {args : Value} {vars : Vars}
    (taken : includedVars l args = .ok vars) : vars.Ordered := by
  unfold includedVars at taken
  split at taken
  case h_1 entries =>
    cases taken
    exact (Scope.ordered_visible _).insertAll entries
  case h_2 =>
    cases taken
    exact Scope.ordered_visible _
  case h_3 => cases taken

theorem scoped_of_reaches {n : Nat} {loaded : Loaded} {vars : Vars} {surroundings : ω}
    (ordered : vars.Ordered) (reaches : (start loaded vars surroundings).Reaches env n m) :
    m.Everywhere Level.Scoped Level.Scoped := by
  have first : (start loaded vars surroundings).Everywhere Level.Scoped Level.Scoped :=
    ⟨Level.scoped_start loaded ordered 0, nofun⟩
  apply first.reaches (Level.scoped_law env.options) _ reaches
  rintro k m₁ m₂ - - - ⟨-, -, -, taken, -, started⟩
  rw [started]
  exact Level.scoped_start _ (ordered_includedVars taken) _

/-- A map is made of the topmost values on the stack. -/
theorem level_of_makeMap {count : Nat} (fetched : m.level.fetch = .ok (.makeMap count))
    (goes : m.step env = .inl m') :
    m'.level.scope = m.level.scope ∧
      m'.level.stack = .map (Bindings.ofList (Level.pairs (m.level.stack.take (2 * count)).reverse))
        :: m.level.stack.drop (2 * count) := by
  obtain ⟨op, effect, here, does, performs⟩ := exists_of_step goes
  obtain rfl := Except.ok.inj (fetched.symm.trans here)
  cases does with
  | make operands stack makes =>
    cases makes with
    | map full =>
      cases performs
      simp [stack, ← full]
  | decided _ which => simp at which
  | undecided _ _ which => simp at which
  | fail => cases performs

/-- An included template starts with what is visible, and the arguments in front of it. -/
theorem level_of_inclusion (fetched : m.level.fetch = .ok .inclusion)
    (goes : m.step env = .inl m') :
    ∃ args name stack loaded vars, m.level.stack = args :: name :: stack ∧
      includedVars m.level args = .ok vars ∧
      m'.level = .start loaded vars (m.level.depth + 1) := by
  obtain ⟨op, effect, here, does, performs⟩ := exists_of_step goes
  obtain rfl := Except.ok.inj (fetched.symm.trans here)
  cases does with
  | make _ _ makes => cases makes
  | decided _ which => simp at which
  | undecided _ _ which => simp at which
  | inclusion stack =>
    cases performs with
    | enter _ _ _ taken _ => exact ⟨_, _, _, _, _, stack, taken, rfl⟩
  | fail => cases performs

/-- Each name that is given is bound to the last value given for it, and any other name to what
a lookup at the inclusion finds. -/
theorem get?_includedVars {l : Level} (h : l.Scoped) {given : List (String × Value)}
    {vars : Vars} (taken : includedVars l (.map (Bindings.ofList given)) = .ok vars)
    (name : String) :
    vars.get? name = (Bindings.get? name given.reverse).or (l.scope.lookup name) := by
  cases taken
  have last : Bindings.get? name (Bindings.ofList given) = Bindings.get? name given.reverse := by
    rw [Bindings.ofList, Bindings.get?_insertAll, Bindings.get?_nil, Option.or_none]
  rw [Bindings.get?_insertAll, (Bindings.ordered_ofList given).get?_reverse, last,
    h.get?_visible]

/-- All that is visible in a scope is what lookups find there, so an included template resolves the
names of its arguments to the last value given for each and all others as they are resolved at the
inclusion. -/
theorem included_sees_including (loaded : Loaded) (vars : Vars) (surroundings : ω)
    (ordered : vars.Ordered) :
    (∀ s : Scope, s.Reached vars →
      s.Ancestors s.current s.path ∧ s.visible.Ordered ∧
        ∀ name, s.visible.get? name = s.lookup name) ∧
    ∀ (env : Environment ω) (n count : Nat) (m m₁ m₂ : Machine ω),
      (start loaded vars surroundings).Reaches env n m →
      m.level.fetch = .ok (.makeMap count) → m.step env = .inl m₁ →
      m₁.level.fetch = .ok .inclusion → m₁.step env = .inl m₂ →
      ∃ included root,
        m₂.level = .start included root (m₁.level.depth + 1) ∧ root.Ordered ∧
        ∀ name, m₂.level.scope.lookup name =
          (Bindings.get? name (Level.pairs (m.level.stack.take (2 * count)).reverse).reverse).or
            (m.level.scope.lookup name) := by
  constructor
  · intro s reached
    exact ⟨(reached.rooted ordered).path, s.ordered_visible, reached.get?_visible ordered⟩
  · intro env n count m m₁ m₂ reaches making made including entered
    obtain ⟨scope, stack⟩ := level_of_makeMap making made
    obtain ⟨args, _, _, included, root, top, taken, started⟩ := level_of_inclusion including entered
    rw [stack] at top
    obtain ⟨rfl, -⟩ := List.cons.inj top
    have here : m₁.level.Scoped := (scoped_of_reaches ordered reaches).level.congr scope
    refine ⟨included, root, started, ordered_includedVars taken, fun name => ?_⟩
    rw [started, ← scope, ← get?_includedVars here taken name]
    exact Scope.lookup_ofVars root name

end Machine

namespace Inclusion

/-- A template that includes itself with two values for one name. -/
def twice : Loaded where
  id := 0
  program := {
    name := "twice"
    constants := #[.str "twice", .str "x", .int 1, .int 2]
    names := #["x", "y"]
    macros := #[]
    instructions := #[.constLoad 0, .constLoad 1, .constLoad 2, .constLoad 1, .constLoad 3,
      .makeMap 2, .inclusion, .finish] }

def environment : Environment Unit where
  options := {}
  source := some fun _ s => (.ok twice, s)
  sink := .unlimited

def given : Vars := Bindings.ofList [("x", .int 7), ("y", .int 8)]

/-- After so many steps, none of which has written anything. -/
def reached (steps : Nat) (stack : List Value) : Machine Unit :=
  { Machine.start twice given () with
    level := { Level.start twice given 0 with ip := steps, stack := stack }
    steps := steps }

/-- The name of the template and the arguments, which are ready to be made a map. -/
def ready : Machine Unit := reached 5 [.int 2, .str "x", .int 1, .str "x", .str "twice"]

theorem reaches_ready : (Machine.start twice given ()).Reaches environment 5 ready := by
  have name : (reached 0 []).step environment = .inl (reached 1 [.str "twice"]) := rfl
  have key : (reached 1 [.str "twice"]).step environment
      = .inl (reached 2 [.str "x", .str "twice"]) := rfl
  have value : (reached 2 [.str "x", .str "twice"]).step environment
      = .inl (reached 3 [.int 1, .str "x", .str "twice"]) := rfl
  have key' : (reached 3 [.int 1, .str "x", .str "twice"]).step environment
      = .inl (reached 4 [.str "x", .int 1, .str "x", .str "twice"]) := rfl
  have value' : (reached 4 [.str "x", .int 1, .str "x", .str "twice"]).step environment
      = .inl ready := rfl
  exact .step name (.step key (.step value (.step key' (.single value'))))

/-- The later of the two values is seen, and the variable that is not given. -/
theorem included_sees_including_twice :
    ∃ m₁ m₂, ready.step environment = .inl m₁ ∧ m₁.step environment = .inl m₂ ∧
      m₂.level.scope.lookup "x" = some (.int 2) ∧ m₂.level.scope.lookup "y" = some (.int 8) := by
  have made : ready.step environment
      = .inl (reached 6 [.map [("x", .int 2)], .str "twice"]) := by
    rfl
  obtain ⟨m₂, entered⟩ : ∃ m₂,
      (reached 6 [.map [("x", .int 2)], .str "twice"]).step environment = .inl m₂ := ⟨_, rfl⟩
  obtain ⟨-, seen⟩ := Machine.included_sees_including twice given () (Bindings.ordered_ofList _)
  obtain ⟨-, -, -, -, same⟩ := seen environment 5 2 ready _ m₂ reaches_ready rfl made rfl entered
  exact ⟨_, m₂, made, entered, (same "x").trans rfl, (same "y").trans rfl⟩

end Inclusion
end TemplateEngine
