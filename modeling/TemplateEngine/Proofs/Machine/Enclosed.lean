import TemplateEngine.Proofs.Machine.Balanced
import TemplateEngine.Proofs.Scope.Layers

/-!
# Macros do not leave the frames that they are closed over

In compiled code a macro never gets to a place that lasts longer than its frame. The
places are the frames and the stack. The values that a call leaves on the stack last
as long as the frames that it leaves, so each call has a bound of its own for them. A
frame is only dropped where none of the values on the stack is newer: at the end of a
loop and of a macro the code has nothing of its own on the stack.
-/

namespace TemplateEngine

/-- The ground of a macro in progress, with what the calls have left on the stack: at
each of them only macros of the identity that are closed over the frames it has left. -/
inductive Ground.Standing (id : Nat) (full : List SourceOp) : Ground → List Value → Prop
  | template : Standing id full .template []
  | call {g : Ground} {pt : Point} {own left : List Value} : Standing id full g left →
      pt.inMacro = g.inMacro → (∀ n, Safe full n { pt with height := pt.height + 1 }) →
      own.length = pt.height →
      (∀ value ∈ own, value.All (Value.ClosedBelow id (g.loops.length + pt.loops + 1))) →
      Standing id full (g.call pt) (own ++ left)

namespace Ground.Standing

variable {id : Nat} {full : List SourceOp} {g : Ground} {left : List Value}

theorem length_eq (h : g.Standing id full left) : left.length = g.height := by
  induction h with
  | template => rfl
  | call _ _ _ size _ ih => rw [List.length_append, size, ih, Ground.call, Nat.add_comm]

theorem closedBelow (h : g.Standing id full left) :
    ∀ value ∈ left, value.All (Value.ClosedBelow id (g.loops.length + 1)) := by
  induction h with
  | template => exact nofun
  | @call g pt own left _ _ _ _ bounded ih =>
    have more : g.loops.length + pt.loops + 1 = (g.call pt).loops.length := by
      simp [Ground.call, Nat.add_assoc]
    intro value member
    rcases List.mem_append.mp member with here | below
    · exact (bounded value here).closedBelow_mono (by omega)
    · exact (ih value below).closedBelow_mono (by omega)

end Ground.Standing

/-- The level runs some code and holds the macros of an identity only in places that do
not last longer than the frames that they are closed over. -/
structure Level.Enclosed (id : Nat) (name : String) (full : List SourceOp) (l : Level) : Prop where
  program : l.loaded.program = .ofOps name full
  layered : l.scope.Layered id
  located : ∃ (g : Ground) (pt : Point) (own left : List Value), g.Standing id full left ∧ l.At g pt ∧
    (∀ n, Safe full n pt) ∧ l.stack = own ++ left ∧
    ∀ value ∈ own, value.All (Value.ClosedBelow id l.scope.depth)

namespace Level

variable {id : Nat} {options : ExecutionOptions} {full : List SourceOp} {name : String}
  {l l' : Level} {op : Program.Resolved}

theorem enclosed_start {loaded : Loaded} (program : loaded.program = .ofOps name full)
    (coded : WellCoded full) {vars : Vars} (foreign : Bindings.All (Value.ClosedBelow id 0) vars)
    (depth : Nat) : (Level.start loaded vars depth).Enclosed id name full := by
  refine ⟨program, Scope.layered_ofVars foreign, ?_⟩
  exact ⟨.template, ⟨0, 0, 0, false⟩, [], [], .template, ⟨rfl, rfl, rfl, rfl, rfl⟩, coded.start, rfl,
    nofun⟩

/-- All macros of the identity at the level are closed over live frames. -/
theorem Enclosed.all (h : l.Enclosed id name full) :
    l.All (Value.ClosedBelow id l.scope.depth) := by
  obtain ⟨-, layered, g, pt, own, left, standing, here, -, stack, bounded⟩ := h
  refine ⟨?_, layered.all⟩
  intro value member
  rw [stack] at member
  rcases List.mem_append.mp member with new | old
  · exact bounded value new
  · refine (standing.closedBelow value old).closedBelow_mono ?_
    rw [here.depth]
    omega

/-- The macro that an operation makes is closed over a live frame. -/
theorem admitsAt_closedBelow (id : Nat) (l : Level) (op : Program.Resolved) :
    AdmitsAt (Value.ClosedBelow id l.scope.depth) l op where
  scalars _ h := Value.closedBelow_of_isScalar h
  raws _ := trivial
  made _ _ _ := Nat.lt_succ_self _

/-- Operands that the code has put on the stack itself keep the bound of its values, and
so do the values below them. -/
theorem exists_own {own left taken stack : List Value} {P : Value → Prop}
    (eq : own ++ left = taken ++ stack) (enough : taken.length ≤ own.length)
    (bounded : ∀ value ∈ own, P value) :
    (∀ value ∈ taken, P value) ∧ ∃ rest, stack = rest ++ left ∧
      own.length = taken.length + rest.length ∧ ∀ value ∈ rest, P value := by
  have split : ∃ rest, own = taken ++ rest ∧ stack = rest ++ left := by
    rcases List.append_eq_append_iff.mp eq with ⟨rest, rfl, rfl⟩ | ⟨rest, rfl, rfl⟩
    · obtain rfl : rest = [] := by
        rw [List.length_append] at enough
        exact List.eq_nil_of_length_eq_zero (by omega)
      exact ⟨[], by simp⟩
    · exact ⟨rest, rfl, rfl⟩
  obtain ⟨rest, rfl, rfl⟩ := split
  obtain ⟨first, later⟩ := List.forall_mem_append.mp bounded
  exact ⟨first, rest, rfl, List.length_append, later⟩

/-- The values that no call has left are those of the current point. -/
theorem At.length_own {g : Ground} {pt : Point} {own left : List Value} (here : l.At g pt)
    (standing : g.Standing id full left) (stack : l.stack = own ++ left) :
    own.length = pt.height := by
  have height := here.height
  rw [stack, List.length_append, standing.length_eq] at height
  omega

/-- The arguments of a call are in the frame of the callee, and the values below them
outlast that frame. -/
theorem Enclosed.enterMacro (h : l.Enclosed id name full) (coded : WellCoded full) {count : Nat}
    (fetched : l.fetch = .ok (.macroCall count)) {args stack : List Value} {ref : MacroRef}
    {callee : Nat × MacroDef} {scope : Scope} (taken : l.stack = args ++ .macroRef ref :: stack)
    (counted : args.length = count) (found : l.loaded.program.macroAt ref.index = .ok callee)
    (pushed : l.scope.pushWithParent ref.closure = .ok scope) :
    ({ l with
      stack := stack
      ip := callee.2.entry
      scope := (callee.2.params.zip args.reverse).foldl (fun s arg => s.bind arg.1 arg.2) scope
      calls := ⟨l.ip + 1, l.scope.depth, []⟩ :: l.calls } : Level).Enclosed id name full := by
  obtain ⟨program, layered, g, pt, own, left, standing, here, safe, held, bounded⟩ := h
  obtain ⟨room, back, entered⟩ := here.called program safe coded fetched found
  have size := here.length_own standing held
  have enough : (args ++ [Value.macroRef ref]).length ≤ own.length := by
    rw [List.length_append, counted, size]
    exact room
  have split : own ++ left = (args ++ [Value.macroRef ref]) ++ stack := by
    rw [← held, taken, List.append_assoc]
    rfl
  obtain ⟨given, rest, rfl, sum, kept⟩ := exists_own split enough bounded
  obtain ⟨inner, deeper⟩ := layered.pushWithParent pushed
  refine ⟨program, inner.bindAll ?_, _, _, [], rest ++ left, .call standing ?_ back ?_ ?_,
    here.enterMacro _ taken counted room pushed, entered, rfl, nofun⟩
  · intro arg member
    have arg_given := given arg.2
      (List.mem_append_left _ (List.mem_reverse.mp (List.of_mem_zip member).2))
    exact arg_given.closedBelow_mono (by omega)
  · exact here.inMacro
  · rw [List.length_append, List.length_singleton, counted, size] at sum
    simp only [Point.behind]
    omega
  · intro value member
    have depth : l.scope.depth = g.loops.length + (pt.behind count).loops + 1 := here.depth
    exact depth ▸ kept value member

/-- A return drops the frames of the callee. What the call has left is not newer than the
frames that it has left. -/
theorem Enclosed.leaveMacro (h : l.Enclosed id name full) (fetched : l.fetch = .ok .macroReturn)
    {c : Call} {calls : List Call} (calling : l.calls = c :: calls) :
    ({ l with
      ip := c.returnTo
      scope := l.scope.truncate c.scopeDepth
      stack := .raw (String.join c.captured.reverse) :: l.stack
      calls := calls } : Level).Enclosed id name full := by
  obtain ⟨program, layered, g, pt, own, left, standing, here, safe, held, -⟩ := h
  obtain ⟨⟨empty, -⟩, -⟩ := here.fetched program safe fetched
  have none : own = [] := List.eq_nil_of_length_eq_zero ((here.length_own standing held).trans empty)
  cases standing with
  | template =>
    have records := here.records
    simp [Level.records, calling, Ground.template] at records
  | @call g pt' kept left standing same back counted lower =>
    have there := here.leaveMacro same empty calling (.raw (String.join c.captured.reverse))
    refine ⟨program, layered.truncate _, g, _, .raw (String.join c.captured.reverse) :: kept, left,
      standing, there, back, ?_, ?_⟩
    · rw [held, none]
      rfl
    · refine List.forall_mem_cons.mpr ⟨Value.all_raw.mpr trivial, ?_⟩
      have depth := there.depth
      intro value member
      exact depth ▸ lower value member

/-- Every operation of compiled code keeps macros where they are enclosed. -/
theorem Enclosed.next (h : l.Enclosed id name full) (coded : WellCoded full)
    (fetched : l.fetch = .ok op) (does : l.Does options op (.next l')) :
    l'.Enclosed id name full := by
  have ⟨program, layered, g, pt, own, left, standing, here, safe, stack, bounded⟩ := h
  obtain ⟨allows, -⟩ := here.fetched program safe fetched
  have size := here.length_own standing stack
  have enough : op.operands ≤ own.length := size ▸ allows.enough
  -- What is left to show of an operation that stays on the ground.
  have stay (same : l'.calls = l.calls) (loaded : l'.loaded = l.loaded)
      (layered' : l'.scope.Layered id) (rest : List Value) (stack' : l'.stack = rest ++ left)
      (bounded' : ∀ value ∈ rest, value.All (Value.ClosedBelow id l'.scope.depth)) :
      l'.Enclosed id name full := by
    obtain ⟨pt', there, safe'⟩ := here.stay program safe fetched does same
    exact ⟨loaded ▸ program, layered', g, pt', rest, left, standing, there, safe', stack', bounded'⟩
  have split (taken : List Value) {others : List Value} (eq : l.stack = taken ++ others)
      (enough : taken.length ≤ own.length) := exists_own (stack.symm.trans eq) enough bounded
  cases does with
  | make operands taken makes =>
    obtain ⟨given, rest, rfl, -, others⟩ := split operands taken (makes.straight.1 ▸ enough)
    have made := makes.all (admitsAt_closedBelow id l op).grants layered.all given
    exact stay rfl rfl layered (_ :: rest) rfl (List.forall_mem_cons.mpr ⟨made, others⟩)
  | drop taken | pass taken | skip taken =>
    obtain ⟨-, rest, rfl, -, others⟩ := split [_] taken enough
    exact stay rfl rfl layered rest rfl others
  | store taken =>
    obtain ⟨given, rest, rfl, -, others⟩ := split [_] taken enough
    refine stay rfl rfl (layered.bind _ (given _ (List.mem_cons_self ..))) rest rfl ?_
    simpa using others
  | jump | decided => exact stay rfl rfl layered own stack bounded
  | undecided _ taken which =>
    have one : 1 ≤ own.length := by
      rcases which with ⟨rfl, -⟩ | ⟨rfl, -⟩ <;> exact enough
    obtain ⟨-, rest, rfl, -, others⟩ := split [_] taken one
    exact stay rfl rfl layered rest rfl others
  | startLoop taken found =>
    obtain ⟨given, rest, rfl, -, others⟩ := split [_] taken enough
    have items := Value.all_loopItems (fun _ h => Value.closedBelow_of_isScalar h)
      (given _ (List.mem_cons_self ..)) found
    refine stay rfl rfl ((layered.push _).setIter ?_) rest rfl ?_
    · exact fun item member => (items item member).closedBelow_mono (Nat.le_succ _)
    · intro value member
      simpa using (others value member).closedBelow_mono (Nat.le_succ _)
  | @round var exit iter item after running next =>
    have items := layered.all.top.iter iter running
    obtain ⟨known, same⟩ := LoopIter.mem_of_advance? next
    have bound := (layered.setIter (same ▸ items)).bind var (by simpa using items item known)
    refine stay rfl rfl (bound.bind "loop" ?_) own stack ?_
    · exact all_loopInfo (fun _ h => Value.closedBelow_of_isScalar h) _ _
    · simpa using bounded
  | endLoop _ _ popped =>
    have none : own = [] := List.eq_nil_of_length_eq_zero (size.trans allows.2)
    exact stay rfl rfl (layered.pop popped) [] (none ▸ stack) nofun
  | enterMacro taken counted _ found _ _ pushed =>
    exact h.enterMacro coded fetched taken counted found pushed
  | leaveMacro calling => exact h.leaveMacro fetched calling

/-- The operands that an operation takes to let other code run are the code's own. -/
theorem Enclosed.pause (h : l.Enclosed id name full) (fetched : l.fetch = .ok op)
    (leads : ∀ pt : Point, pt.next op = [{ pt with
      place := pt.place + 1, height := pt.height - op.operands }])
    (taken : List Value) {stack : List Value} (eq : l.stack = taken ++ stack)
    (counted : taken.length = op.operands) :
    ({ l with stack := stack } : Level).advance.Enclosed id name full := by
  obtain ⟨program, layered, g, pt, own, left, standing, here, safe, held, bounded⟩ := h
  obtain ⟨allows, -⟩ := here.fetched program safe fetched
  have enough : taken.length ≤ own.length := by
    rw [here.length_own standing held, counted]
    exact allows.enough
  obtain ⟨-, rest, rfl, -, others⟩ := exists_own (held.symm.trans eq) enough bounded
  obtain ⟨pt', there, safe'⟩ := here.pause program safe fetched leads taken eq counted
  exact ⟨program, layered, g, pt', rest, left, standing, there, safe', rfl, others⟩

theorem enclosed_law (id : Nat) (coded : WellCoded full) (options : ExecutionOptions) :
    LevelLaw options (fun _ => True) (Level.Enclosed id name full)
      (fun l => l.advance.Enclosed id name full) where
  next h fetched does _ := h.next coded fetched does
  write h fetched does := by
    cases does with
    | print taken => exact h.pause fetched (fun _ => rfl) [_] taken rfl
  enter h fetched does := by
    cases does with
    | inclusion taken => exact h.pause fetched (fun _ => rfl) [_, _] taken rfl
  resume h := h
  blank := by
    intro l l' same h
    obtain ⟨program, layered, g, pt, own, left, standing, here, safe, stack, bounded⟩ := h
    have scope : l'.scope = l.scope := (congrArg Level.scope same :)
    refine ⟨?_, ?_, g, pt, own, left, standing, here.advance_congr same, safe, ?_, ?_⟩
    · exact (congrArg (fun l => l.loaded.program) same).trans program
    · exact scope ▸ layered
    · exact (congrArg Level.stack same).trans stack
    · exact scope ▸ bounded

end Level
end TemplateEngine
