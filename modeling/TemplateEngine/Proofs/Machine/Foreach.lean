import TemplateEngine.Proofs.Machine.Iteration
import TemplateEngine.Proofs.Program.Blocks

/-!
# Every `FOREACH` block runs over its collection

The code of a block evaluates the collection and goes on with the loop. So whatever the
body does, a block enters it once for each item of the collection as it was when the
loop began, and it leaves the scope as it was before the block.
-/

namespace TemplateEngine

/-- What a loop over a value runs over: the items of a list, or the keys of a map in the
order of their bytes. -/
inductive Value.RunsOver : Value → List Value → Prop
  | list {items} : RunsOver (.list items) items
  | keys {entries : Vars} : entries.Ordered →
      RunsOver (.map entries) (entries.map fun entry => .str entry.1)
  | undef : RunsOver .undef []

theorem Value.RunsOver.loopItems_eq {value : Value} {items : List Value} (h : value.RunsOver items) :
    Level.loopItems value = .ok items := by
  cases h <;> rfl

namespace Template.ForeachBlock

variable {t : Template} {options : CompileOptions} {source : String} {p : Program}

/-- The collection of a block and its loop as pieces of the code of a program. -/
structure Parts (block : t.ForeachBlock options) (p : Program) (value body : Region) : Prop where
  program : p = .ofOps value.name value.full
  program' : p = .ofOps body.name body.full
  start : value.start = block.start
  stop : value.stop = block.loopStart
  evaluates : ∀ op ∈ value.ops, op.Evaluates
  begins : value.Has ⟨value.start, 0, 0, false⟩
  begin_loop : CodeAt value.full block.loopStart [.forStart]
  loop : LoopCode body block.head block.var
  exit : block.exit = body.stop + 1

theorem exists_parts (block : t.ForeachBlock options) (compiled : t.compile options source = .ok p) :
    ∃ value body, block.Parts p value body := by
  obtain ⟨var, collection, body, start, items, code, evaluates, compiles, ops, whole, code_at⟩ := block
  have template := Node.bodyCode_of_code t.body whole
  have program : p = .ofOps t.name (ops ++ [.finish]) := by
    simp only [compile, whole] at compiled
    exact (Except.ok.inj compiled).symm
  obtain ⟨items', evaluates', compiles⟩ := bind_eq_ok.mp compiles
  obtain rfl : items = items' := Except.ok.inj (evaluates.symm.trans evaluates')
  obtain ⟨inner, inner_eq, compiles⟩ := bind_eq_ok.mp compiles
  cases compiles
  have items_code := exprCode_of_code collection evaluates
  have inner_code := Node.bodyCode_of_code body inner_eq
  rw [List.append_assoc] at code_at
  have here := code_at.append_right [.finish]
  have loop_at := here.right rfl
  have head_at := loop_at.tail rfl
  have inner_at := head_at.tail rfl
  refine ⟨⟨t.name, _, start, items, 1, template.wellCoded, here.left, items_code.stays (Nat.le_refl _)⟩,
    ⟨t.name, _, start + items.length + 1 + 1, inner, 0, template.wellCoded, inner_at.left,
      inner_code.stays (Nat.le_refl _)⟩, ?_⟩
  constructor
  case program => exact program
  case program' => exact program
  case start => rfl
  case stop => rfl
  case evaluates => exact items_code.evaluates
  case begins => exact items_code.fenced
  case begin_loop => exact loop_at.head
  case loop =>
    constructor
    · rfl
    · rfl
    · exact head_at.head
    · exact inner_at.right rfl
    · exact inner_code.fenced
    · exact inner_code.ne_finish
  case exit =>
    simp only [exit, Region.stop, List.length_append, List.length_cons, List.length_nil]
    omega

end Template.ForeachBlock

namespace Machine

variable {ω : Type} {t : Template} {options : CompileOptions} {source : String}

/-- After `n` steps from `m` its level, in the same calls, is at a place for the first time. -/
structure Arrives (env : Environment ω) (m : Machine ω) (place n : Nat) (m' : Machine ω) : Prop where
  reaches : m.Reaches env n m'
  stands : m.Stands place m'
  first : ∀ j < n, ∀ m₁, m.Reaches env j m₁ → ¬ m.Stands place m₁

/-- How the level of `m` executes a block that it is at the start of. -/
structure Iterates (env : Environment ω) (m : Machine ω) (block : t.ForeachBlock options)
    (items : List Value) : Prop where
  /-- Up to its end the body is entered for the first items, one after the other. -/
  entered : ∀ n m', m.Reaches env n m' →
    (∀ j < n, ∀ m₁, m.Reaches env j m₁ → ¬ m.Stands block.exit m₁) →
    (entries env m block.head n m).length ≤ items.length ∧
      ∀ i (m₁ : Machine ω), (entries env m block.head n m)[i]? = some m₁ →
        m₁.level.Begins block.var items i
  /-- At its end it was entered for all items, and the scope is as it was. -/
  left : ∀ n m', m.Arrives env block.exit n m' →
    (entries env m block.head n m).length = items.length ∧ m'.level.scope = m.level.scope
  /-- It comes to its end unless the run does not end or ends with an error. -/
  leaves : ∀ fuel o, run env fuel m = some o → o.error = none →
    ∃ n m', m.Arrives env block.exit n m'

variable {env : Environment ω} {m m' m'' m₁ m₂ : Machine ω} {block : t.ForeachBlock options}
  {value body : Region} {i j k n head place : Nat} {item : Value} {items : List Value}

theorem Reaches.eq (h : m.Reaches env n m₁) (h' : m.Reaches env n m₂) : m₁ = m₂ := by
  cases Reaches.split (j := 0) h h'
  rfl

theorem Stands.congr (outer : m₁.outer.length = m.outer.length)
    (calls : m₁.level.calls.length = m.level.calls.length) :
    m₁.Stands place m' ↔ m.Stands place m' := by
  constructor
  · rintro ⟨outer', calls', place⟩
    exact ⟨outer'.trans outer, calls'.trans calls, place⟩
  · rintro ⟨outer', calls', place⟩
    exact ⟨outer'.trans outer.symm, calls'.trans calls.symm, place⟩

theorem entries_congr (outer : m₁.outer.length = m.outer.length)
    (calls : m₁.level.calls.length = m.level.calls.length) (n : Nat) (m' : Machine ω) :
    entries env m₁ head n m' = entries env m head n m' := by
  induction n generalizing m' with
  | zero => rfl
  | succ n ih => simp only [entries, Enters, Stands.congr outer calls, ih]

/-- Where the collection is evaluated the loop begins, with no round yet. -/
theorem rounds_start (parts : block.Parts m.level.loaded.program value body)
    (program : m₁.level.loaded.program = m.level.loaded.program) (here : m₁.level.ip = block.loopStart)
    (top : m₁.level.stack.head? = some item) (runs : item.RunsOver items)
    (first : m₁.step env = .inl m₂) :
    m₂.outer.length = m₁.outer.length ∧ m₂.level.calls.length = m₁.level.calls.length ∧
      m₂.level.ip = block.head ∧ m₂.level.scope.pop = .ok m₁.level.scope ∧
      Rounds body items m₁.level.scope m₂ 0 m₂ := by
  have begin_loop : CodeAt value.full m₁.level.ip [.forStart] := here.symm ▸ parts.begin_loop
  have fetched : m₁.level.fetch = .ok .forStart :=
    Level.fetch_ofOps (program.trans parts.program) begin_loop
  obtain ⟨effect, does, goes⟩ := step_does fetched first
  cases does with
  | make _ _ makes => cases makes
  | decided _ which | undecided _ _ which => simp at which
  | fail => cases goes
  | @startLoop _ _ items' taken found =>
    rw [taken] at top
    cases top
    obtain rfl : items = items' := Except.ok.inj (runs.loopItems_eq.symm.trans found)
    cases goes
    have looping := Scope.Looping.startLoop m₁.level.scope items
    obtain ⟨popped, -⟩ := looping.innermost (by simp)
    refine ⟨rfl, rfl, congrArg (· + 1) here, popped, .head ⟨rfl, rfl, rfl⟩ ?_ ?_ looping⟩
    · exact program.trans parts.program'
    · exact Level.at_ground _

/-- The level of `m` is at work on the collection of a block or on its loop. -/
inductive Underway (block : t.ForeachBlock options) (value body : Region) (items : List Value)
    (m m' : Machine ω) : Prop
  | collection : m.Evaluates value m' → Underway block value body items m m'
  | rounds {m₂ : Machine ω} {i : Nat} : m₂.outer.length = m.outer.length →
      m₂.level.calls.length = m.level.calls.length → m₂.level.ip = block.head →
      Rounds body items m.level.scope m₂ i m' → Underway block value body items m m'

namespace Underway

theorem not_stands (h : Underway block value body items m m')
    (parts : block.Parts m.level.loaded.program value body) : ¬ m.Stands block.exit m' := by
  intro stands
  cases h with
  | collection evaluates =>
    have bound := (evaluates.within.place_le stands).2
    have start := parts.loop.start
    rw [parts.stop, parts.exit, Region.stop] at bound
    rw [Template.ForeachBlock.head] at start
    omega
  | rounds outer calls ip rounds =>
    rw [parts.exit, ← Stands.congr outer calls] at stands
    exact rounds.not_stands (ip.symm ▸ parts.loop) stands

theorem depth_le (h : Underway block value body items m m') : m.outer.length ≤ m'.outer.length := by
  cases h with
  | collection evaluates => exact Follows.depth_le evaluates.within
  | rounds outer _ _ rounds => exact outer ▸ rounds.depth_le

theorem ne_finish (h : Underway block value body items m m')
    (parts : block.Parts m.level.loaded.program value body)
    (here : m'.outer.length = m.outer.length) : m'.level.fetch ≠ .ok .finish := by
  cases h with
  | collection evaluates =>
    by_cases stop : m.Stands value.stop m'
    · have own := stop.calls.trans (Level.length_records m.level).symm
      have program := ((evaluates.within.of_depth here).exists_point own).1
      have begin_loop : CodeAt value.full m'.level.ip [.forStart] := by
        rw [stop.place, parts.stop]
        exact parts.begin_loop
      rw [Level.fetch_ofOps program begin_loop]
      nofun
    · refine evaluates.within.ne_finish ?_ stop here
      rintro op member rfl
      exact parts.evaluates _ member
  | rounds outer _ ip rounds =>
    exact rounds.ne_finish (ip.symm ▸ parts.loop) (here.trans outer.symm)

end Underway

/-- The level of `m` is at the start of a block, whose collection is evaluated where `m₁`
is come to, to a value that runs over some items. -/
structure Evaluated (env : Environment ω) (m : Machine ω) (block : t.ForeachBlock options)
    (value body : Region) (items : List Value) (j : Nat) (m₁ : Machine ω) : Prop where
  framed : m.level.Framed
  parts : block.Parts m.level.loaded.program value body
  here : m.level.ip = block.start
  arrives : m.Arrives env block.loopStart j m₁
  runs : ∃ item, m₁.level.stack.head? = some item ∧ item.RunsOver items

namespace Evaluated

theorem evaluates (h : Evaluated env m block value body items j m₁) (le : i ≤ j)
    (reached : m.Reaches env i m₂) : m.Evaluates value m₂ := by
  have begins := evaluates_start h.framed h.parts.program (h.here.trans h.parts.start.symm) h.parts.begins
  apply begins.run h.parts.evaluates reached
  intro i' lt m₃ reached'
  rw [h.parts.stop]
  exact h.arrives.first i' (Nat.lt_of_lt_of_le lt le) m₃ reached'

theorem not_stands_head (h : Evaluated env m block value body items j m₁) (le : i ≤ j)
    (reached : m.Reaches env i m₂) : ¬ m.Stands block.head m₂ := by
  intro stands
  have bound := ((h.evaluates le reached).within.place_le stands).2
  rw [h.parts.stop, Template.ForeachBlock.head] at bound
  omega

theorem entries_eq_nil (h : Evaluated env m block value body items j m₁) (le : n ≤ j)
    (reaches : m.Reaches env n m') : entries env m block.head n m = [] := by
  apply Machine.entries_eq_nil reaches
  exact fun i lt m₂ => h.not_stands_head (Nat.le_trans (Nat.le_of_lt lt) le)

/-- Behind the collection all that is entered is entered by the loop. -/
theorem rounds (h : Evaluated env m block value body items j m₁) (first : m₁.step env = .inl m₂)
    (k : Nat) :
    m₂.outer.length = m.outer.length ∧ m₂.level.calls.length = m.level.calls.length ∧
      m₂.level.ip = block.head ∧ m₂.level.scope.pop = .ok m.level.scope ∧
      Rounds body items m.level.scope m₂ 0 m₂ ∧
      entries env m block.head (j + (k + 1)) m = entries env m₂ m₂.level.ip k m₂ := by
  obtain ⟨item, top, runs⟩ := h.runs
  have reached := h.arrives.reaches
  have stands := h.arrives.stands
  have final := h.evaluates (Nat.le_refl j) reached
  have own := stands.calls.trans (Level.length_records m.level).symm
  have program := ((final.within.of_depth stands.outer).exists_point own).1
  obtain ⟨outer, calls, ip, popped, rounds⟩ :=
    rounds_start h.parts (program.trans h.parts.program.symm) stands.place top runs first
  rw [final.scope stands] at popped rounds
  have outer := outer.trans stands.outer
  have calls := calls.trans stands.calls
  refine ⟨outer, calls, ip, popped, rounds, ?_⟩
  rw [entries_add _ _ _ reached, h.entries_eq_nil (Nat.le_refl j) reached, entries_of_step _ _ _ first,
    if_neg fun entered => h.not_stands_head (Nat.le_refl j) reached entered.1, ip,
    entries_congr outer calls]
  rfl

/-- How far a block has come that was not left before. -/
theorem underway_or_left (h : Evaluated env m block value body items j m₁)
    (reaches : m.Reaches env n m')
    (before : ∀ i < n, ∀ m₂, m.Reaches env i m₂ → ¬ m.Stands block.exit m₂) :
    (∀ i (m₂ : Machine ω), (entries env m block.head n m)[i]? = some m₂ →
        m₂.level.Begins block.var items i) ∧
      ((m.Underway block value body items m' ∧
          (entries env m block.head n m).length ≤ items.length) ∨
        m.Stands block.exit m' ∧ m'.level.scope = m.level.scope ∧
          (entries env m block.head n m).length = items.length) := by
  by_cases early : n ≤ j
  · rw [h.entries_eq_nil early reaches]
    exact ⟨nofun, .inl ⟨.collection (h.evaluates early reaches), Nat.zero_le _⟩⟩
  · obtain ⟨k, rfl⟩ : ∃ k, n = j + (k + 1) := ⟨n - j - 1, by omega⟩
    have later := h.arrives.reaches.split reaches
    cases later with
    | @step _ _ m₂ _ first later =>
      obtain ⟨outer, calls, ip, popped, rounds, all⟩ := h.rounds first k
      have run := rounds.run (ip.symm ▸ h.parts.loop) popped (Nat.zero_le _) later ?_
      · simp only [Nat.zero_add, ← h.parts.exit, Stands.congr outer calls] at run
        rw [all]
        exact ⟨run.1, run.2.imp_left fun goesOn => ⟨.rounds outer calls ip goesOn.1, goesOn.2⟩⟩
      · intro i lt m₃ reached
        rw [← h.parts.exit, Stands.congr outer calls]
        exact before (j + (i + 1)) (by omega) m₃ (h.arrives.reaches.trans (.step first reached))

end Evaluated

/-- A run that ends without an error does so at the end of the first template. -/
theorem fetch_of_ended {o : Outcome ω} (last : m.step env = .inr o) (ended : o.error = none) :
    m.outer = [] ∧ m.level.fetch = .ok .finish := by
  rcases step_cases env m with ⟨steps, e, aborted⟩ | ⟨op, effect, fetched, does, goes⟩
  · cases last.symm.trans aborted
    cases ended
  · rw [last] at goes
    cases goes with
    | refused | notFound | blocked | fail => cases ended
    | finish level outer =>
      cases does
      exact ⟨outer, fetched⟩

/-- What stands at a place at some time does so for a first time. -/
theorem exists_arrives (reaches : m.Reaches env n m') (stands : m.Stands place m') :
    ∃ n m', m.Arrives env place n m' := by
  induction n using Nat.strong_induction_on generalizing m' with
  | _ n ih =>
    by_cases earlier : ∃ j < n, ∃ m₁, m.Reaches env j m₁ ∧ m.Stands place m₁
    · obtain ⟨j, lt, m₁, reached, stands⟩ := earlier
      exact ih j lt reached stands
    · refine ⟨n, m', reaches, stands, fun j lt m₁ reached stands => ?_⟩
      exact earlier ⟨j, lt, m₁, reached, stands⟩

/-- Every `FOREACH` block of a compiled template iterates exactly: if its collection is
evaluated to a value that runs over some items, its body is entered once for each item.
No other code begins loops. -/
theorem foreach_iterates {p : Program} (compiled : t.compile options source = .ok p) :
    (∀ l : Level, l.loaded.program = p → l.fetch = .ok .forStart →
      ∃ block : t.ForeachBlock options, block.loopStart = l.ip) ∧
    ∀ (block : t.ForeachBlock options) {ω : Type} (env : Environment ω) loaded vars surroundings
      {n m j m₁ item items}, (start loaded vars surroundings).Reaches env n m →
      m.level.loaded.program = p → m.level.ip = block.start → m.Arrives env block.loopStart j m₁ →
      m₁.level.stack.head? = some item → item.RunsOver items → m.Iterates env block items := by
  constructor
  · rintro l rfl fetched
    exact Template.exists_block compiled fetched
  rintro block ω env loaded vars surroundings n m j m₁ item items reaches rfl here evaluated top runs
  obtain ⟨value, body, parts⟩ := block.exists_parts compiled
  have evaluated : Evaluated env m block value body items j m₁ :=
    ⟨(framed_of_reaches reaches).level, parts, here, evaluated, item, top, runs⟩
  constructor
  case entered =>
    intro n m' reached before
    obtain ⟨begins, ⟨-, le⟩ | ⟨-, -, all⟩⟩ := evaluated.underway_or_left reached before
    · exact ⟨le, begins⟩
    · exact ⟨Nat.le_of_eq all, begins⟩
  case left =>
    intro n m' arrives
    obtain ⟨-, ⟨underway, -⟩ | ⟨-, scope, all⟩⟩ :=
      evaluated.underway_or_left arrives.reaches arrives.first
    · exact absurd arrives.stands (underway.not_stands parts)
    · exact ⟨all, scope⟩
  case leaves =>
    intro fuel o ended noError
    by_contra never
    obtain ⟨n, m', -, reached, last⟩ := run_eq_some_iff.mp ended
    obtain ⟨-, ⟨underway, -⟩ | ⟨stands, -, -⟩⟩ :=
      evaluated.underway_or_left reached fun i _ m₂ reached' stands =>
        never (exists_arrives reached' stands)
    · obtain ⟨outer, finishes⟩ := fetch_of_ended last noError
      have shallow := underway.depth_le
      rw [outer] at shallow
      refine underway.ne_finish parts ?_ finishes
      rw [outer]
      exact Nat.le_antisymm (Nat.zero_le _) shallow
    · exact never (exists_arrives reached stands)

end Machine

namespace Numbers

def page (var : String) : Template where
  name := "page"
  body := [.foreach var (.list [.literal (.int 1), .literal (.int 2)]) [.print (.var var)]]

def program (var : String) : Loaded where
  id := 0
  program := {
    name := "page"
    constants := #[.int 1, .int 2]
    names := #[var]
    macros := #[]
    instructions := #[.constLoad 0, .constLoad 1, .makeList 2, .forStart, .forIter 0 8,
      .loadVar 0, .print .html, .jump 4, .finish] }

def block (var : String) : (page var).ForeachBlock ⟨true⟩ where
  var := var
  collection := .list [.literal (.int 1), .literal (.int 2)]
  body := [.print (.var var)]
  start := 0
  items := [.constLoad (.int 1), .constLoad (.int 2), .makeList 2]
  code := [.constLoad (.int 1), .constLoad (.int 2), .makeList 2, .forStart, .forIter var 8,
    .loadVar var, .print .html, .jump 4]
  evaluates := rfl
  compiles := rfl
  stands := ⟨_, rfl, [], [], rfl, rfl⟩

def environment : Environment Unit := ⟨{}, none, .unlimited⟩

/-- The machine after some steps. -/
def after (var : String) : Nat → Machine Unit
  | 0 => .start (program var) [] ()
  | n + 1 => ((after var n).step environment).elim id fun _ => after var n

theorem foreach_iterates_numbers :
    (Machine.run environment 50 (after "x" 0)).map (fun o => (o.output, o.error.isNone))
        = some ("12", true) ∧
      (after "x" 0).Iterates environment (block "x") [.int 1, .int 2] := by
  have evaluated : (after "x" 0).Arrives environment (block "x").loopStart 3 (after "x" 3) := by
    have reaches₁ : (after "x" 0).Reaches environment 1 (after "x" 1) := .single rfl
    have reaches₂ : (after "x" 0).Reaches environment 2 (after "x" 2) := reaches₁.trans (.single rfl)
    constructor
    · exact reaches₂.trans (.single rfl)
    · exact ⟨rfl, rfl, rfl⟩
    · rintro j lt m₁ reached stands
      have place := stands.place
      obtain rfl | rfl | rfl : j = 0 ∨ j = 1 ∨ j = 2 := by omega
      · cases reached
        cases place
      · rw [reached.eq reaches₁] at place
        cases place
      · rw [reached.eq reaches₂] at place
        cases place
  have compiled : (page "x").compile ⟨true⟩ "" = .ok (program "x").program := rfl
  refine ⟨by decide +kernel, ?_⟩
  exact (Machine.foreach_iterates compiled).2 (block "x") environment (program "x") [] () (.refl _)
    rfl rfl evaluated rfl .list

/-- A block over a variable named `loop` finds the metadata in place of its items. -/
theorem foreach_loop_hides_items :
    (Machine.run environment 50 (after "loop" 0)).map (fun o => o.error.isNone) = some true ∧
      ¬ ∀ (i : Nat) (m : Machine Unit),
        (Machine.entries environment (after "loop" 0) (block "loop").head 20 (after "loop" 0))[i]?
            = some m →
          m.level.scope.lookup (block "loop").var = [Value.int 1, .int 2][i]? := by
  refine ⟨by decide +kernel, fun finds => ?_⟩
  have found := finds 0 (after "loop" 5) rfl
  cases found

end Numbers
end TemplateEngine
