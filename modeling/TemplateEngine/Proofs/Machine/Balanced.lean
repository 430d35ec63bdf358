import TemplateEngine.Proofs.Machine.Returns
import TemplateEngine.Proofs.Program.Heights

/-!
# Levels of compiled programs are balanced

A level that runs compiled code is at one of the points that are safe there. Heights
and loops of a point are counted from the ground of the template or of the innermost
macro: what was on the stack and which frames there were when the macro was called.
Each macro in progress stands on the ground of what called it, at the point where
that goes on.
-/

namespace TemplateEngine

/-- What a level has had since the template or the innermost macro started. -/
structure Ground where
  /-- Values on the stack. -/
  height : Nat
  /-- Which of the frames above the root are loops. -/
  loops : List Bool
  /-- The calls in progress, outermost first. -/
  records : List (Nat × Nat)
  inMacro : Bool

/-- The point behind a call, without the value that the call will return. -/
def Point.behind (pt : Point) (count : Nat) : Point :=
  { pt with place := pt.place + 1, height := pt.height - (count + 1) }

namespace Ground

/-- The ground of a template. -/
def template : Ground := ⟨0, [], [], false⟩

/-- The ground of a macro whose callee and arguments are taken off the stack; the
call returns to a point with one value more. -/
def call (g : Ground) (pt : Point) : Ground where
  height := g.height + pt.height
  loops := g.loops ++ List.replicate pt.loops true ++ [false]
  records := g.records ++ [(pt.place, g.loops.length + pt.loops + 1)]
  inMacro := true

/-- The ground of a macro that was called, maybe through others, above some ground. -/
inductive Above (full : List SourceOp) (ground : Ground) : Ground → Prop
  | refl : Above full ground ground
  | call {g} {pt : Point} : Above full ground g → pt.inMacro = g.inMacro →
      (∀ n, Safe full n { pt with height := pt.height + 1 }) → Above full ground (g.call pt)

variable {full : List SourceOp} {ground g : Ground}

/-- Another ground above has more calls in progress. -/
theorem Above.eq_or_more (h : ground.Above full g) :
    g = ground ∨ ground.records.length < g.records.length := by
  induction h with
  | refl => exact .inl rfl
  | @call g pt _ _ _ ih =>
    right
    have more : ground.records.length ≤ g.records.length := by
      rcases ih with rfl | lt
      · exact Nat.le_refl _
      · exact Nat.le_of_lt lt
    simpa [Ground.call] using Nat.lt_succ_of_le more

/-- Above the ground of a template there are only those of macros, which are called. -/
theorem Above.template_or_macro (h : template.Above full g) :
    g = template ∨ g.inMacro = true ∧ g.records ≠ [] := by
  cases h with
  | refl => exact .inl rfl
  | call _ _ _ => exact .inr ⟨rfl, by simp [Ground.call]⟩

end Ground

namespace Level

/-- The level is at a point that is counted from some ground. -/
structure At (g : Ground) (pt : Point) (l : Level) : Prop where
  place : l.ip = pt.place
  height : l.stack.length = g.height + pt.height
  loops : l.scope.loops = g.loops ++ List.replicate pt.loops true
  records : l.records = g.records
  inMacro : pt.inMacro = g.inMacro

/-- The level runs some code and is at a safe point of it, above some ground. -/
structure Balanced (name : String) (full : List SourceOp) (ground : Ground) (l : Level) :
    Prop where
  program : l.loaded.program = .ofOps name full
  located : ∃ g pt, ground.Above full g ∧ l.At g pt ∧ ∀ n, Safe full n pt

end Level

theorem Point.Allows.enough {κ ν μ : Type} {pt : Point} {op : Op κ ν μ} (h : pt.Allows op) :
    op.operands ≤ pt.height := by
  cases op with
  | finish | macroReturn | forIter => exact Nat.zero_le _
  | _ => exact h

namespace Level

variable {options : ExecutionOptions} {full : List SourceOp} {name : String}
  {ground g : Ground} {pt : Point} {l l' : Level} {op : Program.Resolved}

/-- An operation that makes a value takes its operands and leads to the next one. -/
theorem Makes.straight {operands : List Value} {value : Value}
    (makes : Makes options l op operands value) :
    operands.length = op.operands ∧ op.results = 1 ∧ op.IsStraight := by
  cases makes with
  | list size | map size => exact ⟨size, rfl, fun _ => ⟨id, rfl⟩⟩
  | _ => exact ⟨rfl, rfl, fun _ => ⟨id, rfl⟩⟩

/-- At a safe point the operation is allowed and leads to safe points. -/
theorem At.fetched (here : l.At g pt) (program : l.loaded.program = .ofOps name full)
    (safe : ∀ n, Safe full n pt) (fetched : l.fetch = .ok op) :
    pt.Allows op ∧ ∀ pt' ∈ pt.next op, ∀ n, Safe full n pt' := by
  obtain ⟨source, known, rfl⟩ := exists_of_fetch program fetched
  rw [here.place] at known
  rw [Point.allows_resolved, Point.next_resolved]
  have step : ∀ n, pt.Allows source ∧ ∀ pt' ∈ pt.next source, Safe full n pt' := by
    intro n
    obtain ⟨source', at_place, here⟩ := safe (n + 1)
    obtain rfl := Option.some.inj (known.symm.trans at_place)
    exact here
  exact ⟨(step 0).1, fun pt' member n => (step n).2 pt' member⟩

theorem At.enough (here : l.At g pt) (allows : pt.Allows op) : op.operands ≤ l.stack.length := by
  have taken := allows.enough
  rw [here.height]
  omega

theorem At.depth (here : l.At g pt) : l.scope.depth = g.loops.length + pt.loops + 1 := by
  have size := congrArg List.length here.loops
  simp only [Scope.length_loops, List.length_append, List.length_replicate] at size
  rw [Scope.depth, size]

/-- The innermost frame is one of a loop where loops are around. -/
theorem At.isSome_iter (here : l.At g pt) (some : 0 < pt.loops) : l.scope.top.iter.isSome := by
  obtain ⟨loops, eq⟩ := Nat.exists_eq_add_one.mpr some
  have last := here.loops
  rw [eq, List.replicate_succ', ← List.append_assoc] at last
  cases popped : l.scope.pop with
  | error fault =>
    have deep : 1 < l.scope.depth := by
      rw [here.depth]
      omega
    exact absurd popped (Scope.pop_ne_error deep)
  | ok below =>
    rw [Scope.loops_of_append (Scope.shape_pop popped)] at last
    exact List.singleton_inj.mp (List.append_inj' last rfl).2

theorem balanced_start {loaded : Loaded} (program : loaded.program = .ofOps name full)
    (coded : WellCoded full) (vars : Vars) (depth : Nat) :
    (Level.start loaded vars depth).Balanced name full .template :=
  ⟨program, .template, ⟨0, 0, 0, false⟩, .refl, ⟨rfl, rfl, rfl, rfl, rfl⟩, coded.start⟩

/-- What is at a point in a call is at its first instruction, on a new ground. -/
theorem At.enterMacro (here : l.At g pt) {count entry closure : Nat} {args stack : List Value}
    {ref : MacroRef} {scope : Scope} (bound : List (String × Value))
    (taken : l.stack = args ++ .macroRef ref :: stack) (size : args.length = count)
    (enough : count + 1 ≤ pt.height) (pushed : l.scope.pushWithParent closure = .ok scope) :
    ({ l with
      stack := stack
      ip := entry
      scope := bound.foldl (fun s arg => s.bind arg.1 arg.2) scope
      calls := ⟨l.ip + 1, l.scope.depth, []⟩ :: l.calls } : Level).At
        (g.call (pt.behind count)) ⟨entry, 0, 0, true⟩ := by
  have height := here.height
  simp only [taken, List.length_append, List.length_cons, size] at height
  constructor
  · rfl
  · simp only [Ground.call, Point.behind]
    omega
  · have shape := (Scope.shape_bindAll scope bound).trans (Scope.shape_pushWithParent pushed).2
    have loops := (Scope.loops_of_append shape).trans (congrArg (· ++ [false]) here.loops)
    simpa [Ground.call, Point.behind] using loops
  · have records := here.records
    simp only [Level.records] at records
    simp [Level.records, Ground.call, Point.behind, records, here.place, here.depth]
  · rfl

/-- At the end of a macro the level goes on where it was called, with one value more. -/
theorem At.leaveMacro {pt' : Point} (here : l.At (g.call pt) pt') (same : pt.inMacro = g.inMacro)
    (empty : pt'.height = 0) {c : Call} {calls : List Call} (calling : l.calls = c :: calls)
    (value : Value) :
    ({ l with
      ip := c.returnTo
      scope := l.scope.truncate c.scopeDepth
      stack := value :: l.stack
      calls := calls } : Level).At g { pt with height := pt.height + 1 } := by
  have records := here.records
  simp only [Level.records, calling, List.map_cons, List.reverse_cons, Ground.call] at records
  obtain ⟨rest, last⟩ := List.append_inj' records rfl
  obtain ⟨back, depth⟩ := Prod.mk.inj (List.singleton_inj.mp last)
  constructor
  · exact back
  · have height := here.height
    simp only [Ground.call, empty] at height
    simp only [List.length_cons, height]
    omega
  · simp only [depth, Scope.loops_truncate, here.loops, Ground.call]
    rw [List.append_assoc, List.take_left']
    simp
  · exact rest
  · exact same

theorem height_tail {stack rest : List Value} {value : Value} {height below : Nat}
    (taken : stack = value :: rest) (size : stack.length = below + height) (enough : 1 ≤ height) :
    rest.length = below + (height - 1) := by
  rw [taken, List.length_cons] at size
  omega

/-- An operation that neither makes nor ends a call leads to a next point on the same ground. -/
theorem At.follow (here : l.At g pt) (allows : pt.Allows op) (does : l.Does options op (.next l'))
    (same : l'.calls = l.calls) : ∃ pt' ∈ pt.next op, l'.At g pt' := by
  have enough := allows.enough
  have place := here.place
  have height := here.height
  cases does with
  | make operands taken makes =>
    obtain ⟨size, one, straight⟩ := makes.straight
    rw [(straight pt).2]
    refine ⟨_, List.mem_singleton_self _, ?_⟩
    refine { here with place := congrArg (· + 1) place, height := ?_ }
    simp only [taken, List.length_append, size] at height
    simp only [List.length_cons, one]
    omega
  | drop taken =>
    refine ⟨_, List.mem_singleton_self _, ?_⟩
    exact { here with place := congrArg (· + 1) place, height := height_tail taken height enough }
  | store taken =>
    refine ⟨_, List.mem_singleton_self _, ?_⟩
    refine { here with
      place := congrArg (· + 1) place, height := height_tail taken height enough, loops := ?_ }
    exact (Scope.loops_congr (Scope.shape_bind ..)).trans here.loops
  | jump =>
    refine ⟨_, List.mem_singleton_self _, ?_⟩
    exact { here with place := rfl }
  | pass taken =>
    refine ⟨_, List.mem_cons_self .., ?_⟩
    exact { here with place := congrArg (· + 1) place, height := height_tail taken height enough }
  | skip taken =>
    refine ⟨_, List.mem_cons_of_mem _ (List.mem_singleton_self _), ?_⟩
    exact { here with place := rfl, height := height_tail taken height enough }
  | @decided _ _ _ target _ which =>
    refine ⟨{ pt with place := target }, ?_, { here with place := rfl }⟩
    rcases which with ⟨rfl, -⟩ | ⟨rfl, -⟩ <;> simp [Point.next]
  | undecided _ taken which =>
    refine ⟨{ pt with place := pt.place + 1, height := pt.height - 1 }, ?_,
      { here with place := congrArg (· + 1) place, height := height_tail taken height ?_ }⟩
    · rcases which with ⟨rfl, -⟩ | ⟨rfl, -⟩ <;> simp [Point.next]
    · rcases which with ⟨rfl, -⟩ | ⟨rfl, -⟩ <;> exact enough
  | startLoop taken =>
    refine ⟨_, List.mem_singleton_self _, ?_⟩
    refine { here with
      place := congrArg (· + 1) place, height := height_tail taken height enough, loops := ?_ }
    rw [Scope.loops_of_append (Scope.shape_startLoop ..), here.loops, List.replicate_succ',
      List.append_assoc]
  | round running =>
    refine ⟨_, List.mem_cons_self .., ?_⟩
    refine { here with place := congrArg (· + 1) place, loops := ?_ }
    refine (Scope.loops_congr ?_).trans here.loops
    simp [Scope.shape_setIter, running]
  | endLoop running _ popped =>
    refine ⟨_, List.mem_cons_of_mem _ (List.mem_singleton_self _), ?_⟩
    refine { here with place := rfl, loops := ?_ }
    obtain ⟨loops, eq⟩ := Nat.exists_eq_add_one.mpr (show 0 < pt.loops from allows.1)
    have loops := here.loops
    rw [Scope.loops_of_append (Scope.shape_pop popped), eq, List.replicate_succ',
      ← List.append_assoc] at loops
    rw [(List.append_inj' loops rfl).1, eq, Nat.add_sub_cancel]
  | enterMacro => exact absurd same (List.cons_ne_self _ _)
  | leaveMacro calling => exact absurd (calling.symm.trans same.symm) (List.cons_ne_self _ _)

/-- From a safe point it leads to another. -/
theorem At.stay (here : l.At g pt) (program : l.loaded.program = .ofOps name full)
    (safe : ∀ n, Safe full n pt) (fetched : l.fetch = .ok op) (does : l.Does options op (.next l'))
    (same : l'.calls = l.calls) : ∃ pt', l'.At g pt' ∧ ∀ n, Safe full n pt' := by
  obtain ⟨allows, later⟩ := here.fetched program safe fetched
  obtain ⟨pt', member, there⟩ := here.follow allows does same
  exact ⟨pt', there, later pt' member⟩

/-- What is at a safe point in a call goes on at safe points in the macro, and will do
so behind the call. -/
theorem At.called (here : l.At g pt) (program : l.loaded.program = .ofOps name full)
    (safe : ∀ n, Safe full n pt) (coded : WellCoded full) {count : Nat}
    (fetched : l.fetch = .ok (.macroCall count)) {index : Nat} {callee : Nat × MacroDef}
    (found : l.loaded.program.macroAt index = .ok callee) :
    count + 1 ≤ pt.height ∧
      (∀ n, Safe full n { pt.behind count with height := (pt.behind count).height + 1 }) ∧
      ∀ n, Safe full n ⟨callee.2.entry, 0, 0, true⟩ := by
  obtain ⟨allows, later⟩ := here.fetched program safe fetched
  rw [program] at found
  obtain ⟨source, member, defines⟩ := Program.exists_of_macroAt found
  exact ⟨allows.enough, List.forall_mem_singleton.mp later, coded.entry source member _ defines⟩

/-- Every operation leads from a safe point to another. -/
theorem Balanced.next (h : l.Balanced name full ground) (coded : WellCoded full)
    (fetched : l.fetch = .ok op) (does : l.Does options op (.next l'))
    (inside : ground.records.length ≤ l'.calls.length) : l'.Balanced name full ground := by
  obtain ⟨program, g, pt, above, here, safe⟩ := h
  by_cases same : l'.calls = l.calls
  · obtain ⟨pt', there, safe'⟩ := here.stay program safe fetched does same
    refine ⟨?_, g, pt', above, there, safe'⟩
    cases does <;> exact program
  cases does with
  | make | drop | store | jump | pass | skip | decided | undecided | startLoop | round
  | endLoop => exact absurd rfl same
  | enterMacro taken size _ found _ _ pushed =>
    obtain ⟨enough, back, entered⟩ := here.called program safe coded fetched found
    refine ⟨program, _, _, Ground.Above.call above ?_ back, ?_, entered⟩
    · exact here.inMacro
    · exact here.enterMacro _ taken size enough pushed
  | leaveMacro calling =>
    obtain ⟨allows, -⟩ := here.fetched program safe fetched
    have size := congrArg List.length here.records
    rw [length_records, calling, List.length_cons] at size
    dsimp only at inside
    cases above with
    | refl => omega
    | call above same safe =>
      exact ⟨program, _, _, above, here.leaveMacro same allows.1 calling _, safe⟩

/-- An operation that lets other code run takes its operands only. -/
theorem At.wait (here : l.At g pt) (allows : pt.Allows op)
    (leads : ∀ pt : Point, pt.next op = [{ pt with
      place := pt.place + 1, height := pt.height - op.operands }])
    (taken : List Value) {stack : List Value} (eq : l.stack = taken ++ stack)
    (size : taken.length = op.operands) :
    ∃ pt' ∈ pt.next op, ({ l with stack := stack } : Level).advance.At g pt' := by
  have enough := allows.enough
  rw [leads pt]
  refine ⟨_, List.mem_singleton_self _, ?_⟩
  refine { here with place := congrArg (· + 1) here.place, height := ?_ }
  have height := here.height
  rw [eq, List.length_append, size] at height
  simp only [Level.advance]
  omega

theorem At.pause (here : l.At g pt) (program : l.loaded.program = .ofOps name full)
    (safe : ∀ n, Safe full n pt) (fetched : l.fetch = .ok op)
    (leads : ∀ pt : Point, pt.next op = [{ pt with
      place := pt.place + 1, height := pt.height - op.operands }])
    (taken : List Value) {stack : List Value} (eq : l.stack = taken ++ stack)
    (size : taken.length = op.operands) :
    ∃ pt', ({ l with stack := stack } : Level).advance.At g pt' ∧ ∀ n, Safe full n pt' := by
  obtain ⟨allows, later⟩ := here.fetched program safe fetched
  obtain ⟨pt', member, there⟩ := here.wait allows leads taken eq size
  exact ⟨pt', there, later pt' member⟩

/-- What a level has captured and written does not matter to where it is. -/
theorem At.advance_congr (here : l.advance.At g pt) (same : l'.blank = l.blank) :
    l'.advance.At g pt := by
  refine ⟨?_, ?_, ?_, ?_, here.inMacro⟩
  · exact (congrArg (fun l => l.ip + 1) same).trans here.place
  · exact (congrArg (fun l => l.stack.length) same).trans here.height
  · exact (congrArg (fun l => l.scope.loops) same).trans here.loops
  · have records : l'.records = l.records := by
      rw [← records_blank, same, records_blank]
    exact records.trans here.records

theorem Balanced.pause (h : l.Balanced name full ground) (fetched : l.fetch = .ok op)
    (leads : ∀ pt : Point, pt.next op = [{ pt with
      place := pt.place + 1, height := pt.height - op.operands }])
    (taken : List Value) {stack : List Value} (eq : l.stack = taken ++ stack)
    (size : taken.length = op.operands) :
    ({ l with stack := stack } : Level).advance.Balanced name full ground := by
  obtain ⟨program, g, pt, above, here, safe⟩ := h
  obtain ⟨pt', there, safe'⟩ := here.pause program safe fetched leads taken eq size
  exact ⟨program, g, pt', above, there, safe'⟩

/-- A level of compiled code stays balanced as long as what it started with is there. -/
theorem balanced_law (coded : WellCoded full) (options : ExecutionOptions) {region : Level → Prop}
    (there : ∀ l, region l → ground.records.length ≤ l.calls.length) :
    LevelLaw options region (Level.Balanced name full ground)
      (fun l => l.advance.Balanced name full ground) where
  next h fetched does inside := h.next coded fetched does (there _ inside)
  write h fetched does := by
    cases does with
    | print taken => exact h.pause fetched (fun _ => rfl) [_] taken rfl
  enter h fetched does := by
    cases does with
    | inclusion taken => exact h.pause fetched (fun _ => rfl) [_, _] taken rfl
  resume h := h
  blank := by
    intro l l' same h
    obtain ⟨program, g, pt, above, here, safe⟩ := h
    refine ⟨?_, g, pt, above, here.advance_congr same, safe⟩
    exact (congrArg (fun l => l.loaded.program) same).trans program

/-- A macro that returns was called. -/
theorem Balanced.calls_ne_nil (h : l.Balanced name full .template)
    (fetched : l.fetch = .ok .macroReturn) : l.calls ≠ [] := by
  obtain ⟨program, g, pt, above, here, safe⟩ := h
  obtain ⟨⟨-, inMacro⟩, -⟩ := here.fetched program safe fetched
  intro none
  have records : g.records = [] := by
    rw [← here.records, Level.records, none]
    rfl
  rcases above.template_or_macro with rfl | ⟨-, some⟩
  · cases here.inMacro.symm.trans inMacro
  · exact some records

/-- At its end a template has left everything that it has entered. -/
theorem Balanced.finish (h : l.Balanced name full .template) (fetched : l.fetch = .ok .finish) :
    l.stack = [] ∧ l.scope.depth = 1 ∧ l.calls = [] := by
  obtain ⟨program, g, pt, above, here, safe⟩ := h
  obtain ⟨⟨height, loops, inMacro⟩, -⟩ := here.fetched program safe fetched
  obtain rfl : g = .template := by
    rcases above.template_or_macro with same | ⟨running, -⟩
    · exact same
    · cases (here.inMacro.trans running).symm.trans inMacro
  refine ⟨?_, ?_, ?_⟩
  · apply List.eq_nil_of_length_eq_zero
    rw [here.height, height]
    rfl
  · rw [here.depth, loops]
    rfl
  · simpa [Level.records, Ground.template] using here.records

/-- What a balanced level can never lack. -/
theorem Balanced.not_breaks (h : l.Balanced name full .template) (fetched : l.fetch = .ok op)
    {ip : Nat} : ¬ l.Breaks op (.malformed ip .stackUnderflow) ∧
      ¬ l.Breaks op (.malformed ip .returnOutsideCall) ∧
      ¬ l.Breaks op (.iteration ip .outsideLoop) := by
  obtain ⟨program, g, pt, above, here, safe⟩ := id h
  obtain ⟨allows, -⟩ := here.fetched program safe fetched
  refine ⟨?_, ?_, ?_⟩
  · rintro ⟨⟩
    case underflow short => exact Nat.not_le_of_lt short (here.enough allows)
  · rintro ⟨⟩
    case outsideCall none => exact h.calls_ne_nil fetched none
  · rintro ⟨⟩
    case outsideLoop none =>
      have running := here.isSome_iter allows.1
      rw [none] at running
      cases running

end Level

namespace Machine

variable {ω : Type} {env : Environment ω} {m m' : Machine ω} {full : List SourceOp} {name : String}

/-- A macro of compiled code returns with the stack as its call left it. -/
theorem ReturnsAt.balanced (h : m.ReturnsAt env m') (coded : WellCoded full)
    (balanced : m.level.Balanced name full .template) :
    ∃ count, m.level.fetch = .ok (.macroCall count) ∧
      m'.level.stack.length + count + 1 = m.level.stack.length := by
  obtain ⟨count, call⟩ := h.call
  obtain ⟨program, g, pt, above, here, safe⟩ := balanced
  obtain ⟨allows, -⟩ := here.fetched program safe call
  have enough : count + 1 ≤ pt.height := allows.enough
  let ground := g.call (pt.behind count)
  have size : ground.records.length = m.level.calls.length + 1 := by
    simp [ground, Ground.call, ← here.records]
  -- During the call the level is balanced above the ground of the macro.
  have ends : m'.level.Balanced name full ground := by
    apply h.law (Level.balanced_law coded env.options fun l more => size ▸ Nat.succ_le_of_lt more)
    intro m₁ first
    obtain ⟨args, ref, stack, callee, scope, taken, given, -, found, pushed, rfl⟩ :=
      step_call call first
    obtain ⟨-, -, entered⟩ := here.called program safe coded call found
    exact ⟨program, _, _, .refl, here.enterMacro _ taken given enough pushed, entered⟩
  obtain ⟨program', g', pt', above, there, safe'⟩ := ends
  obtain ⟨⟨empty, -⟩, -⟩ := there.fetched program' safe' h.leaves
  obtain rfl : g' = ground := by
    rcases above.eq_or_more with same | more
    · exact same
    · rw [← there.records, Level.length_records, h.calls, size] at more
      exact absurd more (Nat.lt_irrefl _)
  refine ⟨count, call, ?_⟩
  have before := here.height
  have after := there.height
  simp only [empty, ground, Ground.call, Point.behind] at after
  omega

end Machine
end TemplateEngine
