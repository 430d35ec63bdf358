import TemplateEngine.Proofs.Machine.Defects
import TemplateEngine.Proofs.Machine.Levels
import TemplateEngine.Proofs.Scope.Frames

/-!
# Frames and calls of any program

Whatever a program does, its frames form a tree below the root, and each macro call
in progress has a frame of its own that no loop has taken over. So a name is looked
up in live frames only, and the root is never popped.
-/

namespace TemplateEngine

/-- The calls in progress have frames that are no loops, further in further up. -/
structure Level.Framed (l : Level) : Prop where
  tree : Scope.Grows l.scope.shape
  ordered : (l.calls.map Call.scopeDepth).Pairwise (· > ·)
  live : ∀ depth ∈ l.calls.map Call.scopeDepth,
    ∃ parent, l.scope.shape[depth]? = some (parent, false)

/-- What no program can break at a level. -/
structure Level.Consistent (l : Level) : Prop where
  nonempty : 0 < l.scope.depth
  root : ∃ f, l.scope.frame? 0 = some f ∧ f.parent = none ∧ f.iter = none
  parent : ∀ i f, 0 < i → l.scope.frame? i = some f → ∃ p < i, f.parent = some p
  captures : l.captures.length = l.calls.length
  ordered : l.calls.Pairwise fun inner outer => outer.scopeDepth < inner.scopeDepth
  live : ∀ c ∈ l.calls, ∃ f, l.scope.frame? c.scopeDepth = some f ∧ f.iter = none
  /-- Looking up a name and collecting all that is visible walk along live frames. -/
  walk : l.scope.Ancestors l.scope.current l.scope.path

namespace Level

variable {options : ExecutionOptions} {l l' : Level} {op : Program.Resolved}

theorem Framed.consistent (h : l.Framed) : l.Consistent := by
  refine ⟨Nat.succ_pos _, ⟨l.scope.root, rfl, ?_⟩, h.tree.rooted.parent, ?_, ?_, ?_,
    h.tree.rooted.path⟩
  · have plain : l.scope.root.shape = (none, false) := Option.some.inj h.tree.root
    obtain ⟨parent, loop⟩ := Prod.mk.inj plain
    exact ⟨parent, by simpa using loop⟩
  · simp [Level.captures]
  · exact List.pairwise_map.mp h.ordered
  · intro c member
    obtain ⟨parent, found⟩ := h.live c.scopeDepth (List.mem_map_of_mem member)
    rw [Scope.shape_getElem?] at found
    obtain ⟨f, frame, same⟩ := Option.map_eq_some_iff.mp found
    refine ⟨f, frame, ?_⟩
    simpa [Frame.shape] using congrArg Prod.snd same

theorem framed_start (loaded : Loaded) (vars : Vars) (depth : Nat) :
    (Level.start loaded vars depth).Framed :=
  ⟨Scope.Grows.ofVars vars, .nil, nofun⟩

theorem Framed.congr (h : l.Framed) (shape : l'.scope.shape = l.scope.shape)
    (calls : l'.calls.map Call.scopeDepth = l.calls.map Call.scopeDepth) : l'.Framed := by
  refine ⟨?_, ?_, ?_⟩
  · rw [shape]
    exact h.tree
  · rw [calls]
    exact h.ordered
  · rw [shape, calls]
    exact h.live

/-- A call stays live in a scope that has lost a frame of a loop. -/
theorem getElem?_of_loop {shape : List (Option Nat × Bool)} {p q : Option Nat} {i : Nat}
    (h : (shape ++ [(p, true)])[i]? = some (q, false)) : shape[i]? = some (q, false) := by
  by_cases lt : i < shape.length
  · rwa [List.getElem?_append_left lt] at h
  · rw [List.getElem?_append_right (by omega)] at h
    obtain ⟨place, same⟩ := List.getElem?_eq_some_iff.mp h
    simp at same

/-- Every operation keeps frames and calls in order. -/
theorem Framed.next (h : l.Framed) (does : l.Does options op (.next l')) : l'.Framed := by
  cases does with
  | make | drop | jump | pass | skip | decided | undecided => exact h.congr rfl rfl
  | store => exact h.congr (Scope.shape_bind ..) rfl
  | startLoop =>
    refine ⟨?_, h.ordered, ?_⟩
    · simp only [Scope.shape_startLoop]
      exact h.tree.append (by simp [Scope.current, Scope.depth]) true
    · intro depth member
      obtain ⟨parent, found⟩ := h.live depth member
      have lt := (List.getElem?_eq_some_iff.mp found).1
      refine ⟨parent, ?_⟩
      simp only [Scope.shape_startLoop]
      rw [List.getElem?_append_left lt]
      exact found
  | round running =>
    refine h.congr ?_ rfl
    simp only [Scope.shape_bind]
    exact Scope.shape_setIter (by simp [running]) _
  | @endLoop var exit iter scope running _ popped =>
    have shape := Scope.shape_pop popped
    have loop : l.scope.top.shape = (l.scope.top.parent, true) := by
      simp [Frame.shape, running]
    rw [loop] at shape
    have deep := h.tree.depth_of_loop (by simp [running])
    have tree := h.tree
    rw [shape] at tree
    refine ⟨tree.prefix_of_append ?_, h.ordered, ?_⟩
    · have size := congrArg List.length shape
      simp only [Scope.length_shape, List.length_append, List.length_singleton] at size ⊢
      omega
    · intro depth member
      obtain ⟨parent, found⟩ := h.live depth member
      rw [shape] at found
      exact ⟨parent, getElem?_of_loop found⟩
  | @enterMacro count args ref stack callee scope _ _ _ _ _ _ pushed =>
    obtain ⟨live, shape⟩ := Scope.shape_pushWithParent pushed
    refine ⟨?_, ?_, ?_⟩
    · simp only [Scope.shape_bindAll, shape]
      exact h.tree.append (by simpa using live) false
    · refine List.pairwise_cons.mpr ⟨?_, h.ordered⟩
      intro depth member
      obtain ⟨parent, found⟩ := h.live depth member
      simpa using (List.getElem?_eq_some_iff.mp found).1
    · simp only [Scope.shape_bindAll, shape, List.map_cons, List.forall_mem_cons]
      refine ⟨⟨some ref.closure, by simp⟩, ?_⟩
      intro depth member
      obtain ⟨parent, found⟩ := h.live depth member
      refine ⟨parent, ?_⟩
      rw [List.getElem?_append_left (List.getElem?_eq_some_iff.mp found).1]
      exact found
  | @leaveMacro c calls calling =>
    have ordered := h.ordered
    rw [calling] at ordered
    obtain ⟨lower, ordered⟩ := List.pairwise_cons.mp ordered
    refine ⟨?_, ordered, ?_⟩
    · simp only [Scope.shape_truncate]
      exact h.tree.take (by omega)
    · intro depth member
      have known : depth ∈ l.calls.map Call.scopeDepth := by
        rw [calling]
        exact List.mem_cons_of_mem _ member
      obtain ⟨parent, found⟩ := h.live depth known
      refine ⟨parent, ?_⟩
      have lt : depth < c.scopeDepth := lower depth member
      simp only [Scope.shape_truncate]
      rw [List.getElem?_take_of_lt (by omega)]
      exact found

theorem scopeDepths_blank (l : Level) :
    l.blank.calls.map Call.scopeDepth = l.calls.map Call.scopeDepth := by
  simp [Level.blank, Function.comp_def, Call.blank]

theorem framed_law (options : ExecutionOptions) (region : Level → Prop) :
    LevelLaw options region Level.Framed Level.Framed where
  next h _ does _ := h.next does
  write h _ does := by
    cases does
    exact h.congr rfl rfl
  enter h _ does := by
    cases does
    exact h.congr rfl rfl
  resume h := h.congr rfl rfl
  blank same h := by
    have scope : _ = _ := congrArg Level.scope same
    refine h.congr (congrArg Scope.shape scope) ?_
    rw [← scopeDepths_blank, same, scopeDepths_blank]

theorem Framed.not_popRoot (h : l.Framed) {ip : Nat} : ¬ l.Breaks op (.malformed ip .popRoot) := by
  rintro ⟨⟩
  case popRoot running stuck => exact Scope.pop_ne_error (h.tree.depth_of_loop running) stuck

end Level

namespace Machine

variable {ω : Type} {env : Environment ω} {m m' : Machine ω}

theorem framed_of_reaches {n : Nat} {loaded : Loaded} {vars : Vars} {surroundings : ω}
    (reaches : (start loaded vars surroundings).Reaches env n m) :
    m.Everywhere Level.Framed Level.Framed := by
  have first : (start loaded vars surroundings).Everywhere Level.Framed Level.Framed :=
    ⟨Level.framed_start loaded vars 0, nofun⟩
  apply first.reaches (Level.framed_law env.options _) _ reaches
  rintro k m₁ m₂ - - - ⟨-, -, -, -, -, started⟩
  rw [started]
  exact Level.framed_start _ _ _

end Machine
end TemplateEngine
