import TemplateEngine.Proofs.Meaning.Correctness

/-!
# Templates without `WHILE` end

A `FOREACH` block runs over the items that its value has when it starts, and each
macro call and inclusion takes one of the levels that the bound on the depth allows.
So the meaning of a template without `WHILE` blocks needs no more fuel than there
are levels, and the machine, which does what the meaning does, ends.

Loaders change their surroundings, so what is known of the templates that they give
may rest on an invariant of the surroundings.
-/

namespace TemplateEngine

mutual

/-- No `WHILE` block stands in the node. -/
def Node.isLoopFree : Node → Bool
  | .loop _ _ => false
  | .text _ | .print _ | .assign _ _ | .inclusion _ _ => true
  | .branch _ body rest => Node.areLoopFree body && rest.isLoopFree
  | .foreach _ _ body | .define _ _ body => Node.areLoopFree body

def Alternatives.isLoopFree : Alternatives → Bool
  | .done => true
  | .otherwise body => Node.areLoopFree body
  | .elsif _ body rest => Node.areLoopFree body && rest.isLoopFree

def Node.areLoopFree : List Node → Bool
  | [] => true
  | node :: rest => node.isLoopFree && Node.areLoopFree rest

end

/-- No `WHILE` block stands in the template. -/
def Template.isLoopFree (t : Template) : Bool := Node.areLoopFree t.body

/-- The program is compiled from a template without `WHILE` blocks. -/
def Program.IsLoopFree (p : Program) : Prop :=
  ∃ (t : Template) (options : CompileOptions) (text : String),
    t.compile options text = .ok p ∧ t.isLoopFree = true

mutual

/-- The macros of a node have no `WHILE` blocks if the node has none. -/
theorem Node.isLoopFree_routines : ∀ (node : Node) (first : Nat), node.isLoopFree = true →
    ∀ r ∈ node.routines first, Node.areLoopFree r.body = true
  | .text _, _, _ | .print _, _, _ | .assign _ _, _, _ | .inclusion _ _, _, _ => by
    simp [Node.routines]
  | .branch _ body rest, first, h => by
    obtain ⟨inner, others⟩ := Bool.and_eq_true_iff.mp h
    intro r known
    rcases List.mem_append.mp known with inside | after
    · exact Node.areLoopFree_routines body first inner r inside
    · exact Alternatives.isLoopFree_routines rest _ others r after
  | .foreach _ _ body, first, h => Node.areLoopFree_routines body first h
  | .define name params body, first, h => by
    intro r known
    rcases List.mem_cons.mp known with rfl | inside
    · exact h
    · exact Node.areLoopFree_routines body (first + 1) h r inside

theorem Alternatives.isLoopFree_routines : ∀ (rest : Alternatives) (first : Nat),
    rest.isLoopFree = true → ∀ r ∈ Node.routinesOfRest first rest, Node.areLoopFree r.body = true
  | .done, _, _ => by simp [Node.routinesOfRest]
  | .otherwise body, first, h => Node.areLoopFree_routines body first h
  | .elsif _ body rest, first, h => by
    obtain ⟨inner, others⟩ := Bool.and_eq_true_iff.mp h
    intro r known
    rcases List.mem_append.mp known with inside | after
    · exact Node.areLoopFree_routines body first inner r inside
    · exact Alternatives.isLoopFree_routines rest _ others r after

theorem Node.areLoopFree_routines : ∀ (body : List Node) (first : Nat),
    Node.areLoopFree body = true →
    ∀ r ∈ Node.routinesOfList first body, Node.areLoopFree r.body = true
  | [], _, _ => by simp [Node.routinesOfList]
  | node :: rest, first, h => by
    obtain ⟨front, others⟩ := Bool.and_eq_true_iff.mp h
    intro r known
    rcases List.mem_append.mp known with inside | after
    · exact Node.isLoopFree_routines node first front r inside
    · exact Node.areLoopFree_routines rest _ others r after

end

namespace Meaning

variable {ω α β : Type} {I : ω → Prop}

/-- From surroundings that keep an invariant, the action has a result, and keeps it. -/
def Action.Finishes (I : ω → Prop) (x : Action ω α) : Prop :=
  ∀ s, I s.surroundings → ∃ r s', x s = some (r, s') ∧ I s'.surroundings

namespace Action.Finishes

theorem pure (a : α) : Finishes I (Pure.pure a) := fun s kept => ⟨.ok a, s, rfl, kept⟩

theorem fail (e : RuntimeError) : Finishes I (Action.fail e : Action ω α) :=
  fun s kept => ⟨.error e, s, rfl, kept⟩

/-- What is known of the result of the first action may be used for the second. -/
theorem bind_of {P : α → Prop} {x : Action ω α} {next : α → Action ω β}
    (first : ∀ s, I s.surroundings →
      ∃ r s', x s = some (r, s') ∧ I s'.surroundings ∧ ∀ a, r = .ok a → P a)
    (second : ∀ a, P a → Finishes I (next a)) : Finishes I (x >>= next) := by
  intro s kept
  obtain ⟨r, s', ran, kept', known⟩ := first s kept
  cases r with
  | error e => exact ⟨.error e, s', by simp only [Bind.bind, ran], kept'⟩
  | ok a =>
    have goes_on : (x >>= next) s = next a s' := by simp only [Bind.bind, ran]
    rw [goes_on]
    exact second a (known a rfl) s' kept'

theorem bind {x : Action ω α} {next : α → Action ω β} (first : Finishes I x)
    (second : ∀ a, Finishes I (next a)) : Finishes I (x >>= next) := by
  refine bind_of (P := fun _ => True) ?_ fun a _ => second a
  intro s kept
  obtain ⟨r, s', ran, kept'⟩ := first s kept
  exact ⟨r, s', ran, kept', fun _ _ => trivial⟩

theorem ofFault (result : Except TypeFault α) : Finishes I (Action.ofFault result : Action ω α) := by
  cases result with
  | error fault => exact fail _
  | ok a => exact pure a

theorem inspect (f : State ω → α) : Finishes I (Action.inspect f) :=
  fun s kept => ⟨.ok (f s), s, rfl, kept⟩

theorem modify {f : State ω → State ω} (keeps : ∀ s, I s.surroundings → I (f s).surroundings) :
    Finishes I (Action.modify f) :=
  fun s kept => ⟨.ok (), f s, rfl, keeps s kept⟩

theorem onScope (f : Scope → Scope) : Finishes I (Action.onScope f : Action ω Unit) :=
  modify fun _ kept => kept

theorem lookup (strict : Bool) (name : String) :
    Finishes I (Action.lookup strict name : Action ω Value) := by
  refine (inspect _).bind fun found => ?_
  cases found with
  | some value => exact pure value
  | none =>
    dsimp only
    split
    · exact fail _
    · exact pure _

theorem write (sink : Sink) (text : String) : Finishes I (Action.write sink text : Action ω Unit) := by
  intro s kept
  unfold Action.write
  split
  · exact ⟨_, _, rfl, kept⟩
  · split
    · exact ⟨_, _, rfl, kept⟩
    · exact ⟨_, _, rfl, kept⟩

theorem inMacro {closure : Nat} {args : List (String × Value)} {body : Action ω Unit}
    (ends : Finishes I body) : Finishes I (Action.inMacro closure args body) := by
  refine (inspect _).bind fun depth => (inspect _).bind fun entered => ?_
  cases entered with
  | error fault => exact fail _
  | ok scope =>
    refine (modify ?_).bind fun _ => ends.bind fun _ => (onScope _).bind fun _ => ?_
    · exact fun _ kept => kept
    · exact fun s kept => ⟨_, _, rfl, kept⟩

theorem inTemplate {name : String} {vars : Vars} {body : Action ω Unit} (ends : Finishes I body) :
    Finishes I (Action.inTemplate name vars body) := by
  intro s kept
  obtain ⟨r, s', ran, kept'⟩ := ends { s with scope := .ofVars vars } kept
  exact ⟨_, { s' with scope := s.scope }, by rw [Action.inTemplate, ran]; rfl, kept'⟩

/-- The items are there before the first round, and each round takes one of them. -/
theorem forItems {var : String} {size place : Nat} {body : Action ω Unit} {items : List Value}
    (ends : Finishes I body) : Finishes I (Action.forItems var size body place items) := by
  induction items generalizing place with
  | nil => exact pure ()
  | cons item rest ih =>
    exact (onScope _).bind fun _ => (onScope _).bind fun _ => ends.bind fun _ => ih

end Action.Finishes

open Meaning.Action

section

variable {i : Interpreter ω}

mutual

/-- Compiled expressions have a value or an error if calls end. -/
theorem finishes_eval (calls : ∀ callee args, Finishes I (i.call callee args)) :
    ∀ {start e ops}, ExprCode start e ops → Finishes I (eval i e)
  | _, _, _, .literal => .pure _
  | _, _, _, .list h => (finishes_evalList calls h).bind fun _ => .pure _
  | _, _, _, .var => .lookup _ _
  | _, _, _, .attr h => (finishes_eval calls h).bind fun _ => .ofFault _
  | _, _, _, .index h h' =>
    (finishes_eval calls h).bind fun _ => (finishes_eval calls h').bind fun _ => .ofFault _
  | _, _, _, .call h h' =>
    (finishes_eval calls h).bind fun _ => (finishes_evalList calls h').bind fun _ => calls _ _
  | _, _, _, @ExprCode.filter _ operand name span f _ known h => by
    unfold eval
    rw [known]
    exact (finishes_eval calls h).bind fun _ => .ofFault _
  | _, _, _, .neg h => (finishes_eval calls h).bind fun _ => .ofFault _
  | _, _, _, .not h => (finishes_eval calls h).bind fun _ => .pure _
  | _, _, _, .binary h h' =>
    (finishes_eval calls h).bind fun _ => (finishes_eval calls h').bind fun _ => .ofFault _
  | _, _, _, .conj h h' => by
    refine (finishes_eval calls h).bind fun value => ?_
    split
    · exact finishes_eval calls h'
    · exact .pure _
  | _, _, _, .disj h h' => by
    refine (finishes_eval calls h).bind fun value => ?_
    split
    · exact .pure _
    · exact finishes_eval calls h'

theorem finishes_evalList (calls : ∀ callee args, Finishes I (i.call callee args)) :
    ∀ {start items ops}, ExprListCode start items ops → Finishes I (evalList i items)
  | _, _, _, .nil => .pure _
  | _, _, _, .cons h h' =>
    (finishes_eval calls h).bind fun _ => (finishes_evalList calls h').bind fun _ => .pure _

end

theorem finishes_evalArgs (calls : ∀ callee args, Finishes I (i.call callee args)) {start : Nat}
    {args : List (String × Expr)} {ops : List SourceOp} (h : ArgsCode start args ops) :
    Finishes I (evalArgs i args) := by
  induction h with
  | nil => exact .pure _
  | cons h _ ih => exact (finishes_eval calls h).bind fun _ => ih.bind fun _ => .pure _

variable {options : CompileOptions}

mutual

/-- Compiled nodes without `WHILE` blocks end if calls and inclusions do. -/
theorem finishes_exec (calls : ∀ callee args, Finishes I (i.call callee args))
    (inclusions : ∀ name vars, Finishes I (i.inclusion name vars)) :
    ∀ {start node ops}, NodeCode options start node ops → node.isLoopFree = true →
      ∀ first, Finishes I (exec i first node)
  | _, _, _, .noText, _, _ => .pure _
  | _, _, _, @NodeCode.text _ _ content visible, _, first => by
    have means : exec i first (.text content) = Action.write i.sink content := if_neg visible
    rw [means]
    exact .write _ _
  | _, _, _, .print h, _, _ => (finishes_eval calls h).bind fun _ => .write _ _
  | _, _, _, .branch h inner others, free, _ => by
    obtain ⟨inner_free, others_free⟩ := Bool.and_eq_true_iff.mp free
    refine (finishes_eval calls h).bind fun value => ?_
    split
    · exact finishes_execList calls inclusions inner inner_free _
    · exact finishes_execRest calls inclusions others others_free _
  | _, _, _, .foreach h inner, free, first => by
    refine (finishes_eval calls h).bind fun value => ?_
    cases Level.loopItems value with
    | error fault => exact .fail _
    | ok items =>
      refine (Finishes.inspect _).bind fun depth => (Finishes.onScope _).bind fun _ => ?_
      have round := finishes_execList calls inclusions inner free first
      exact round.forItems.bind fun _ => .onScope _
  | _, _, _, .assign h, _, _ => (finishes_eval calls h).bind fun _ => .onScope _
  | _, _, _, .define _, _, _ => (Finishes.inspect _).bind fun _ => .onScope _
  | _, _, _, .inclusion h h', _, _ =>
    (finishes_eval calls h).bind fun _ => (finishes_evalArgs calls h').bind fun _ => inclusions _ _

theorem finishes_execRest (calls : ∀ callee args, Finishes I (i.call callee args))
    (inclusions : ∀ name vars, Finishes I (i.inclusion name vars)) :
    ∀ {start rest ops}, RestCode options start rest ops → rest.isLoopFree = true →
      ∀ first, Finishes I (execRest i first rest)
  | _, _, _, .done, _, _ => .pure _
  | _, _, _, .otherwise inner, free, first => finishes_execList calls inclusions inner free first
  | _, _, _, .elsif h inner others, free, _ => by
    obtain ⟨inner_free, others_free⟩ := Bool.and_eq_true_iff.mp free
    refine (finishes_eval calls h).bind fun value => ?_
    split
    · exact finishes_execList calls inclusions inner inner_free _
    · exact finishes_execRest calls inclusions others others_free _

theorem finishes_execList (calls : ∀ callee args, Finishes I (i.call callee args))
    (inclusions : ∀ name vars, Finishes I (i.inclusion name vars)) :
    ∀ {start body ops}, BodyCode options start body ops → Node.areLoopFree body = true →
      ∀ first, Finishes I (execList i first body)
  | _, _, _, .nil, _, _ => .pure _
  | _, _, _, .cons h h', free, first => by
    obtain ⟨front, others⟩ := Bool.and_eq_true_iff.mp free
    exact (finishes_exec calls inclusions h front first).bind fun _ =>
      finishes_execList calls inclusions h' others _

end

end

/-- The templates of a library have no `WHILE` blocks, whatever surroundings that
keep the invariant they are asked for in. -/
structure LoopFreeLibrary (I : ω → Prop) (library : TemplateLibrary ω) : Prop where
  keeps : ∀ name s, I s → I (library name s).2
  free : ∀ name s t, I s → (library name s).1 = .ok t → t.template.isLoopFree = true

variable {setting : Setting ω} {run : BodyAction ω} {budget : Nat} {place : Place}

/-- Bodies without `WHILE` blocks end at places with fewer levels left than the budget. -/
def EndsWithin (I : ω → Prop) (setting : Setting ω) (budget : Nat) (run : BodyAction ω) : Prop :=
  ∀ {place start first body ops}, place.current.template.isLoopFree = true →
    setting.options.maxDepth - place.depth < budget →
    BodyCode place.current.options start body ops → Node.areLoopFree body = true →
    Finishes I (run place first body)

/-- A macro that is called is one of the template, and has one level less. -/
theorem EndsWithin.call (ends : EndsWithin I setting budget run)
    (free : place.current.template.isLoopFree = true)
    (left : setting.options.maxDepth - place.depth < budget + 1) (callee : Value)
    (args : List Value) : Finishes I (call setting run place callee args) := by
  cases callee with
  | macroRef ref =>
    simp only [Meaning.call]
    split
    · exact .fail _
    · split
      · exact .fail _
      case h_2 r known =>
        split
        · exact .fail _
        · split
          · exact .fail _
          case isFalse allowed =>
            obtain ⟨ops, code, -⟩ := Template.code_of_compile place.current.compiles
            have located := Template.located_macros code ref.index
            rw [known] at located
            generalize (Program.ofOps _ _).macros[ref.index]? = found at located
            obtain ⟨there⟩ := located
            obtain ⟨inner, body, -⟩ := there.body
            have body_free := Node.areLoopFree_routines _ 0 free r (List.mem_of_getElem? known)
            refine .inMacro (ends free ?_ body body_free)
            dsimp only
            omega
  | _ => exact .fail _

/-- A template that is included is one of the library, and has one level less. -/
theorem EndsWithin.inclusion (ends : EndsWithin I setting budget run)
    (library : ∀ library ∈ setting.library, LoopFreeLibrary I library)
    (left : setting.options.maxDepth - place.depth < budget + 1) (name : String) (vars : Vars) :
    Finishes I (inclusion setting run place name vars) := by
  unfold Meaning.inclusion
  cases given : setting.library with
  | none => exact .fail _
  | some found =>
    have known := library found given
    dsimp only
    split
    · exact .fail _
    case isFalse allowed =>
      split
      · exact .fail _
      · refine (Finishes.inspect _).bind fun vars => ?_
        refine Finishes.bind_of (P := fun asked => ∃ s, I s ∧ found name s = asked) ?_ ?_
        · intro s kept
          refine ⟨_, s, rfl, kept, ?_⟩
          rintro _ ⟨⟩
          exact ⟨s.surroundings, kept, rfl⟩
        · rintro _ ⟨s, kept, rfl⟩
          refine (Finishes.modify fun _ _ => known.keeps name s kept).bind fun _ => ?_
          cases gives : (found name s).1 with
          | error e => exact .fail _
          | ok t =>
            obtain ⟨ops, code, -⟩ := Template.code_of_compile t.compiles
            have free := known.free name s t kept gives
            refine .inTemplate (ends free ?_ code free)
            dsimp only
            omega

/-- The levels that are left bound the fuel that bodies take. -/
theorem interpret_ends (library : ∀ library ∈ setting.library, LoopFreeLibrary I library)
    (fuel : Nat) : EndsWithin I setting fuel (interpret setting fuel) := by
  induction fuel with
  | zero => exact fun _ none => absurd none (Nat.not_lt_zero _)
  | succ fuel ih =>
    intro place start first body ops free left code body_free
    let i := interpreter setting (interpret setting fuel) (fuel + 1) place
    exact finishes_execList (i := i) (ih.call free left) (ih.inclusion library left) code body_free first

/-- A template without `WHILE` blocks ends if all that it can include have none. -/
theorem run_ends (library : ∀ library ∈ setting.library, LoopFreeLibrary I library)
    (t : CompiledTemplate) (free : t.template.isLoopFree = true) (vars : Vars) {surroundings : ω}
    (kept : I surroundings) :
    ∃ fuel o, Machine.run setting.env fuel (.start t.loaded vars surroundings) = some o := by
  let fuel := setting.options.maxDepth + 1
  obtain ⟨ops, code, -⟩ := Template.code_of_compile t.compiles
  have ends : Finishes I (interpret setting fuel ⟨t, 0, 0⟩ 0 t.template.body) :=
    interpret_ends library fuel free (Nat.lt_succ_self _) code free
  obtain ⟨r, s, ended, -⟩ := ends ⟨.ofVars vars, [], [], surroundings⟩ kept
  rcases run_unbounded setting fuel t vars surroundings with ⟨none, -⟩ | ⟨more, o, -, ran⟩
  · rw [run, ended] at none
    cases none
  · exact ⟨more, o, ran⟩

/-- As long as an invariant holds, a source that gives only programs compiled from
templates without `WHILE` blocks is that of a library of such templates. -/
theorem exists_loopFreeLibrary {source : TemplateSource ω}
    (keeps : ∀ name s, I s → I (source name s).2)
    (free : ∀ name s loaded, I s → (source name s).1 = .ok loaded → loaded.program.IsLoopFree) :
    ∃ library : TemplateLibrary ω, LoopFreeLibrary I library ∧
      ∀ name s, I s → library.programs name s = source name s := by
  have found (name : String) (s : ω) : ∃ r : Except Error CompiledTemplate,
      (∀ t, r = .ok t → t.template.isLoopFree = true) ∧
        (I s → r.map CompiledTemplate.loaded = (source name s).1) := by
    by_cases kept : I s
    · cases given : (source name s).1 with
      | error e => exact ⟨.error e, nofun, fun _ => rfl⟩
      | ok loaded =>
        obtain ⟨t, options, text, compiles, loopFree⟩ := free name s loaded kept given
        refine ⟨.ok ⟨loaded.id, options, text, t, loaded.program, compiles⟩, ?_, fun _ => rfl⟩
        rintro _ ⟨⟩
        exact loopFree
    · exact ⟨.error (.notFound name []), nofun, fun none => absurd none kept⟩
  choose result loopFree same using found
  refine ⟨fun name s => (result name s, (source name s).2), ⟨keeps, ?_⟩, ?_⟩
  · exact fun name s t _ => loopFree name s t
  · exact fun name s kept => Prod.ext (same name s kept) rfl

/-- As long as the surroundings keep an invariant, all that can be included is compiled
from templates without `WHILE` blocks. -/
structure LoopFreeSources (I : ω → Prop) (env : Environment ω) : Prop where
  keeps : ∀ source, env.source = some source → ∀ name s, I s → I (source name s).2
  free : ∀ source, env.source = some source → ∀ name s loaded, I s →
    (source name s).1 = .ok loaded → loaded.program.IsLoopFree

/-- Such an environment is, as long as the invariant holds, that of a setting. -/
theorem LoopFreeSources.exists_setting {env : Environment ω} (h : LoopFreeSources I env) :
    ∃ setting : Setting ω, (∀ library ∈ setting.library, LoopFreeLibrary I library) ∧
      Machine.SameOn I env setting.environment := by
  cases given : env.source with
  | none => exact ⟨⟨env.options, none, env.sink⟩, nofun, rfl, rfl, given ▸ .none⟩
  | some source =>
    obtain ⟨library, free, same⟩ := exists_loopFreeLibrary (h.keeps source given) (h.free source given)
    refine ⟨⟨env.options, some library, env.sink⟩, ?_, rfl, rfl, given ▸ .some same⟩
    rintro _ ⟨⟩
    exact free

end Meaning

namespace Machine

variable {ω : Type} {I : ω → Prop} {env : Environment ω}

theorem unbounded_of_maxSteps (unlimited : env.options.maxSteps = none) : env.unbounded = env := by
  obtain ⟨⟨_, _, maxSteps, _⟩, _, _⟩ := env
  obtain rfl : maxSteps = none := unlimited
  rfl

/-- With no bound on its steps, a program compiled from a template without `WHILE`
blocks ends in the environment of a setting without them. -/
theorem exists_run_sameOn {setting : Meaning.Setting ω} (same : SameOn I env setting.environment)
    (library : ∀ library ∈ setting.library, Meaning.LoopFreeLibrary I library)
    (unlimited : env.options.maxSteps = none)
    (keeps : ∀ source, env.source = some source → ∀ name s, I s → I (source name s).2)
    {loaded : Loaded} (free : loaded.program.IsLoopFree) (vars : Vars) {surroundings : ω}
    (kept : I surroundings) : ∃ fuel o, run env fuel (.start loaded vars surroundings) = some o := by
  obtain ⟨t, options, text, compiles, loopFree⟩ := free
  obtain ⟨fuel, o, ran⟩ := Meaning.run_ends library
    ⟨loaded.id, options, text, t, loaded.program, compiles⟩ loopFree vars kept
  have unbounded : setting.environment.unbounded = setting.environment :=
    unbounded_of_maxSteps (same.options ▸ unlimited)
  rw [Meaning.Setting.env, unbounded, run_sameOn same keeps fuel kept] at ran
  exact ⟨fuel, o, ran⟩

/-- With no bound on its steps, a program compiled from a template without `WHILE`
blocks ends, with a result or an error, if it can only include such programs. It may
call macros recursively and include itself, and be given any variables. -/
theorem loopFree_ends (unlimited : env.options.maxSteps = none)
    (included : Meaning.LoopFreeSources I env) {loaded : Loaded} (free : loaded.program.IsLoopFree)
    (vars : Vars) {surroundings : ω} (kept : I surroundings) :
    ∃ fuel o, run env fuel (.start loaded vars surroundings) = some o := by
  obtain ⟨setting, library, same⟩ := included.exists_setting
  exact exists_run_sameOn same library unlimited included.keeps free vars kept

end Machine

namespace Branching

/-- A page whose macro calls itself for each of two items and whose body, after that,
includes the page again. -/
def page : Template where
  name := "page"
  body := [
    .define "walk" [("depth", ⟨13, 18⟩)] [
      .foreach "item" (.list [.literal (.int 1), .literal (.int 2)]) [
        .branch (.var "depth") [.print (.call (.var "walk") [.literal (.bool false)])] .done],
      .text "."],
    .print (.call (.var "walk") [.literal (.bool true)]),
    .inclusion (.literal (.str "page")) []]

def pageProgram : Loaded where
  id := 0
  program := {
    name := "page"
    constants := #[.int 1, .int 2, .bool false, .str ".", .bool true, .str "page"]
    names := #["walk", "item", "depth"]
    macros := #[⟨"walk", ["depth"], 3⟩]
    instructions := #[.makeMacro 0, .storeVar 0, .jump 19, .constLoad 0, .constLoad 1,
      .makeList 2, .forStart, .forIter 1 16, .loadVar 2, .popJumpIfFalse 15, .loadVar 0,
      .constLoad 2, .macroCall 1, .print .html, .jump 15, .jump 7, .constLoad 3, .print .raw,
      .macroReturn, .loadVar 0, .constLoad 4, .macroCall 1, .print .html, .constLoad 5,
      .makeMap 0, .inclusion, .finish] }

def environment : Environment Unit where
  options := { maxDepth := 2 }
  source := some fun _ s => (.ok pageProgram, s)
  sink := .unlimited

theorem isLoopFree_pageProgram : pageProgram.program.IsLoopFree := ⟨page, ⟨true⟩, "", rfl, rfl⟩

theorem loopFree_ends_page :
    ∃ fuel o, Machine.run environment fuel (.start pageProgram [] ()) = some o := by
  refine Machine.loopFree_ends (I := fun _ => True) rfl ⟨?_, ?_⟩ isLoopFree_pageProgram [] trivial
  · exact fun _ _ _ _ _ => trivial
  · rintro _ ⟨⟩ name s _ _ ⟨⟩
    exact isLoopFree_pageProgram

/-- The page is included once, and the macro in it is one level too deep. -/
example : (Machine.run environment 84 (.start pageProgram [] ())).map
    (fun o => (o.output, o.error.isSome)) = some ("...", true) := by
  decide +kernel

end Branching
end TemplateEngine
