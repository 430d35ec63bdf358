import TemplateEngine.Proofs.Machine.Balanced
import TemplateEngine.Proofs.Program.Fenced

/-!
# Levels within a piece of code

A level that has begun an expression or the body of a loop is at a point of this piece
of code, or in a macro that was called from there, until it comes to the end of the
piece. There it has made the values of the piece and has left its loops.
-/

namespace TemplateEngine

/-- A piece of code in its program. -/
structure Region where
  name : String
  full : List SourceOp
  start : Nat
  ops : List SourceOp
  /-- How many values the piece makes. -/
  left : Nat
  coded : WellCoded full
  code : CodeAt full start ops
  stays : StayWithin (start + ops.length) ops

namespace Region

/-- The place behind the piece. -/
def stop (r : Region) : Nat := r.start + r.ops.length

/-- A point of the piece, counted from where the piece starts. -/
abbrev Has (r : Region) (pt : Point) : Prop := Fenced r.start r.ops r.left pt

end Region

theorem Ground.Above.loops_le {full : List SourceOp} {ground g : Ground} (h : ground.Above full g) :
    ground.loops.length ≤ g.loops.length := by
  induction h with
  | refl => exact Nat.le_refl _
  | call _ _ _ ih =>
    simp only [Ground.call, List.length_append]
    omega

namespace Level

/-- What a level has when it begins a piece of code. -/
def ground (l : Level) : Ground := ⟨l.stack.length, l.scope.loops, l.records, false⟩

/-- The level is at a point of the piece, or in a macro that was called from there. -/
inductive Inside (r : Region) (g : Ground) (l : Level) : Prop
  | here {pt} : l.loaded.program = .ofOps r.name r.full → l.At g pt → r.Has pt → Inside r g l
  | called {pt : Point} : l.Balanced r.name r.full (g.call pt) → pt.inMacro = g.inMacro →
      r.Has { pt with height := pt.height + 1 } → Inside r g l

variable {options : ExecutionOptions} {r : Region} {g : Ground} {pt : Point} {l l' : Level}
  {op : Program.Resolved}

theorem at_ground (l : Level) : l.At l.ground ⟨l.ip, 0, 0, false⟩ :=
  ⟨rfl, rfl, by simp [ground], rfl, rfl⟩

theorem Balanced.calls_le {full : List SourceOp} {name : String} (h : l.Balanced name full g) :
    g.records.length ≤ l.calls.length := by
  obtain ⟨-, g', pt, above, here, -⟩ := h
  rw [← length_records, here.records]
  rcases above.eq_or_more with rfl | more
  · exact Nat.le_refl _
  · exact Nat.le_of_lt more

theorem At.calls (here : l.At g pt) : l.calls.length = g.records.length := by
  rw [← length_records, here.records]

theorem length_records_call (g : Ground) (pt : Point) :
    (g.call pt).records.length = g.records.length + 1 := by
  simp [Ground.call]

namespace Inside

/-- In no further call the level is at a point of the piece. -/
theorem exists_point (h : l.Inside r g) (own : l.calls.length = g.records.length) :
    l.loaded.program = .ofOps r.name r.full ∧ ∃ pt, l.At g pt ∧ r.Has pt := by
  cases h with
  | here program here known => exact ⟨program, _, here, known⟩
  | called balanced _ _ =>
    have more := balanced.calls_le
    rw [length_records_call] at more
    omega

/-- The frames that were there when the piece was begun are there. -/
theorem lt_depth (h : l.Inside r g) : g.loops.length < l.scope.depth := by
  cases h with
  | here _ here _ =>
    rw [here.depth]
    omega
  | called balanced _ _ =>
    obtain ⟨-, g', pt', above, there, -⟩ := balanced
    have more := above.loops_le
    rw [there.depth]
    simp only [Ground.call, List.length_append] at more
    omega

/-- At its end the piece has made its values and left its loops. -/
theorem ended (h : l.Inside r g) (own : l.calls.length = g.records.length) (place : l.ip = r.stop) :
    l.At g ⟨r.stop, r.left, 0, false⟩ := by
  obtain ⟨-, pt, here, known⟩ := h.exists_point own
  have stop : pt.place = r.stop := here.place.symm.trans place
  obtain ⟨height, loops⟩ := known.ended stop
  obtain ⟨place, height', loops', inMacro⟩ := pt
  have := known.inMacro
  simp_all

theorem place_le (h : l.Inside r g) (own : l.calls.length = g.records.length) :
    r.start ≤ l.ip ∧ l.ip ≤ r.stop := by
  obtain ⟨-, pt, here, known⟩ := h.exists_point own
  rw [here.place]
  exact ⟨known.start_le, known.place⟩

end Inside

/-- Before its end the piece goes on with one of its operations. -/
theorem At.within (here : l.At g pt) (program : l.loaded.program = .ofOps r.name r.full)
    (known : r.Has pt) (more : l.ip ≠ r.stop) (fetched : l.fetch = .ok op) :
    (∃ source ∈ r.ops, op = source.resolved (macrosBefore r.full l.ip)) ∧ pt.Allows op ∧
      ∀ pt' ∈ pt.next op, r.Has pt' := by
  obtain ⟨source, member, at_place, allows, later⟩ :=
    known.exists_op r.stays r.code (here.place ▸ more)
  obtain ⟨source', at_ip, eq⟩ := exists_of_fetch program fetched
  rw [here.place] at at_ip
  obtain rfl := Option.some.inj (at_place.symm.trans at_ip)
  refine ⟨⟨source, member, eq⟩, ?_, ?_⟩
  · rwa [eq, Point.allows_resolved]
  · rwa [eq, Point.next_resolved]

/-- The head of a loop that is executed within the piece is one of a loop inside of it. -/
theorem Inside.succ_lt_depth (h : l.Inside r g) {var : String} {exit : Nat}
    (more : l.calls.length = g.records.length → l.ip ≠ r.stop)
    (fetched : l.fetch = .ok (.forIter var exit)) : g.loops.length + 1 < l.scope.depth := by
  cases h with
  | here program here known =>
    obtain ⟨-, ⟨loops, -⟩, -⟩ := here.within program known (more here.calls) fetched
    rw [here.depth]
    omega
  | called balanced _ _ =>
    obtain ⟨-, g', pt', above, there, -⟩ := balanced
    have deep := above.loops_le
    rw [there.depth]
    simp only [Ground.call, List.length_append, List.length_singleton] at deep
    omega

/-- The piece does not end before its end. -/
theorem Inside.ne_finish (h : l.Inside r g) (ops : ∀ op ∈ r.ops, op ≠ .finish)
    (more : l.calls.length = g.records.length → l.ip ≠ r.stop) : l.fetch ≠ .ok .finish := by
  intro fetched
  cases h with
  | here program here known =>
    obtain ⟨⟨source, member, eq⟩, -⟩ := here.within program known (more here.calls) fetched
    cases source <;> cases eq
    exact ops _ member rfl
  | called balanced _ _ =>
    obtain ⟨program, g', pt', above, there, safe⟩ := balanced
    obtain ⟨⟨-, -, outside⟩, -⟩ := there.fetched program safe fetched
    have running : g'.inMacro = true := by
      cases above <;> rfl
    exact absurd (outside.symm.trans (there.inMacro.trans running)) Bool.false_ne_true

/-- From a point of the piece an operation leads to another one, or into a macro. -/
theorem At.next_inside (here : l.At g pt) (program : l.loaded.program = .ofOps r.name r.full)
    (known : r.Has pt) (more : l.ip ≠ r.stop) (fetched : l.fetch = .ok op)
    (does : l.Does options op (.next l')) : l'.Inside r g := by
  obtain ⟨-, allows, later⟩ := here.within program known more fetched
  by_cases same : l'.calls = l.calls
  · obtain ⟨pt', member, there⟩ := here.follow allows does same
    refine .here ?_ there (later pt' member)
    cases does <;> exact program
  cases does with
  | make | drop | store | jump | pass | skip | decided | undecided | startLoop | round | endLoop =>
    exact absurd rfl same
  | @enterMacro count _ _ _ _ _ taken size _ found _ _ pushed =>
    rw [program] at found
    obtain ⟨source, member, defines⟩ := Program.exists_of_macroAt found
    have entered := r.coded.entry source member _ defines
    refine .called ⟨program, g.call (pt.behind count), _, .refl, ?_, entered⟩ here.inMacro
      (later _ (List.mem_singleton_self _))
    exact here.enterMacro _ taken size allows.enough pushed
  | leaveMacro => exact absurd (known.inMacro.symm.trans allows.2) Bool.false_ne_true

/-- A macro that was called from the piece comes back to it. -/
theorem Balanced.next_inside (balanced : l.Balanced r.name r.full (g.call pt))
    (same : pt.inMacro = g.inMacro) (known : r.Has { pt with height := pt.height + 1 })
    (fetched : l.fetch = .ok op) (does : l.Does options op (.next l')) : l'.Inside r g := by
  by_cases calling : (g.call pt).records.length ≤ l'.calls.length
  · exact .called (balanced.next r.coded fetched does calling) same known
  have before := balanced.calls_le
  cases does with
  | make | drop | store | jump | pass | skip | decided | undecided | startLoop | round | endLoop =>
    exact absurd before calling
  | enterMacro => exact absurd (Nat.le_succ_of_le before) calling
  | leaveMacro returning =>
    obtain ⟨program, g', pt', above, there, safe⟩ := balanced
    obtain ⟨⟨empty, -⟩, -⟩ := there.fetched program safe fetched
    rcases above.eq_or_more with rfl | more
    · exact .here program (there.leaveMacro same empty returning _) known
    · rw [← there.calls, returning] at more
      exact absurd (Nat.le_of_lt_succ more) calling

/-- A level stays within a piece of code up to its end. -/
theorem inside_passes (options : ExecutionOptions) (r : Region) (g : Ground) :
    LevelPasses options (fun _ => True)
      (fun l => l.Inside r g ∧ (l.calls.length = g.records.length → l.ip ≠ r.stop))
      (Inside r g) (fun l => l.advance.Inside r g) where
  next := by
    rintro l op l' ⟨inside, more⟩ fetched does -
    cases inside with
    | here program here known => exact here.next_inside program known (more here.calls) fetched does
    | called balanced same known => exact balanced.next_inside same known fetched does
  write := by
    rintro l op text l' ⟨inside, more⟩ fetched does
    cases does with
    | print taken =>
      cases inside with
      | here program here known =>
        obtain ⟨-, allows, later⟩ := here.within program known (more here.calls) fetched
        obtain ⟨pt', member, there⟩ := here.wait allows (fun _ => rfl) [_] taken rfl
        exact .here program there (later pt' member)
      | called balanced same known =>
        exact .called (balanced.pause fetched (fun _ => rfl) [_] taken rfl) same known
  enter := by
    rintro l op name args l' ⟨inside, more⟩ fetched does
    cases does with
    | inclusion taken =>
      cases inside with
      | here program here known =>
        obtain ⟨-, allows, later⟩ := here.within program known (more here.calls) fetched
        obtain ⟨pt', member, there⟩ := here.wait allows (fun _ => rfl) [_, _] taken rfl
        exact .here program there (later pt' member)
      | called balanced same known =>
        exact .called (balanced.pause fetched (fun _ => rfl) [_, _] taken rfl) same known
  resume h := h
  blank := by
    intro l l' same h
    cases h with
    | here program here known =>
      refine .here ?_ (here.advance_congr same) known
      exact (congrArg (fun l => l.loaded.program) same).trans program
    | called balanced back known =>
      exact .called ((balanced_law r.coded options fun _ => id).blank same balanced) back known

end Level
end TemplateEngine
