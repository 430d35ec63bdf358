import TemplateEngine.Proofs.Scope.Below

/-!
# Scopes in loops

The frame of a loop stands on top of the scope in which the loop was begun. What is
bound in a round, and the frames of loops and calls inside of it, leave that scope and
the place that the iterator has come to as they are.
-/

namespace TemplateEngine
namespace Scope

variable {b s s' : Scope} {f : Frame} {name other : String} {value : Value} {iter after : LoopIter}

theorem top_setTop (s : Scope) (f : Frame) : (s.setTop f).top = f := by
  obtain ⟨inner, root⟩ := s
  cases inner <;> rfl

theorem pop_setTop (popped : s.pop = .ok b) (f : Frame) : (s.setTop f).pop = .ok b := by
  obtain ⟨inner, root⟩ := s
  cases inner with
  | nil => cases popped
  | cons g rest => exact popped

theorem depth_pop (popped : s.pop = .ok b) : s.depth = b.depth + 1 := by
  have size := congrArg List.length (frames_pop popped)
  simpa using size

theorem frame?_current (s : Scope) : s.frame? s.current = some s.top := by
  obtain ⟨inner, root⟩ := s
  cases inner <;> simp [frame?, current, top]

/-- A lookup begins at the innermost frame. -/
theorem lookup_eq_of_top (found : s.top.vars.get? name = some value) :
    s.lookup name = some value := by
  rw [lookup, path, depth, pathFrom, frame?_current]
  cases parent : s.top.parent <;> simp [parent, found]

theorem lookup_bind_self (s : Scope) (name : String) (value : Value) :
    (s.bind name value).lookup name = some value := by
  apply lookup_eq_of_top
  simp [bind, top_setTop]

theorem lookup_bind_bind (s : Scope) (first second : Value) (h : name ≠ other) :
    ((s.bind name first).bind other second).lookup name = some first := by
  apply lookup_eq_of_top
  simp [bind, top_setTop, Bindings.get?_insert_of_ne h]

theorem Under.of_append (pushed : ∃ f, s'.frames = s.frames ++ [f]) : s.Under s' := by
  obtain ⟨f, frames⟩ := pushed
  exact ⟨[f], frames.symm⟩

/-- On top of the frames of `b` stands the frame of a loop whose iterator is known. -/
def Looping (b : Scope) (iter : LoopIter) (s : Scope) : Prop :=
  ∃ frame : Scope, frame.pop = .ok b ∧ frame.top.iter = some iter ∧ frame.Under s

namespace Looping

theorem startLoop (s : Scope) (items : List Value) :
    s.Looping (.ofItems items) (s.pushChild.setIter (.ofItems items)) := by
  refine ⟨_, ?_, ?_, List.prefix_rfl⟩
  · rw [setIter]
    exact pop_setTop (by simp [pushChild, pop]) _
  · simp [setIter, top_setTop]

/-- In no further frame the iterator is the innermost one. -/
theorem innermost (h : b.Looping iter s) (depth : s.depth = b.depth + 1) :
    s.pop = .ok b ∧ s.top.iter = some iter := by
  obtain ⟨frame, popped, running, under⟩ := h
  obtain rfl : frame = s := under.eq_of_depth (Nat.le_of_eq (depth.trans (depth_pop popped).symm))
  exact ⟨popped, running⟩

theorem of_innermost (popped : s.pop = .ok b) (running : s.top.iter = some iter) :
    b.Looping iter s := ⟨s, popped, running, List.prefix_rfl⟩

theorem bind (popped : s.pop = .ok b) (running : s.top.iter = some iter) (name : String)
    (value : Value) : b.Looping iter (s.bind name value) := by
  apply of_innermost (pop_setTop popped _)
  simpa [Scope.bind, top_setTop] using running

/-- A round begins with two bindings in the frame of its loop. -/
theorem round (popped : s.pop = .ok b) (iter : LoopIter) (first second : Value) :
    b.Looping iter (((s.setIter iter).bind name first).bind other second) := by
  apply of_innermost (pop_setTop (pop_setTop (pop_setTop popped _) _) _)
  simp [Scope.bind, setIter, top_setTop]

end Looping
end Scope

/-- Frames stay below the loop, and so does its iterator unless its next round begins. -/
theorem Level.looping_next {options : ExecutionOptions} {l l' : Level} {op : Program.Resolved}
    {b : Scope} {iter : LoopIter} (h : b.Looping iter l.scope) (does : l.Does options op (.next l'))
    (there : b.depth < l'.scope.depth)
    (inner : ∀ var exit, op = .forIter var exit → b.depth + 1 < l.scope.depth) :
    b.Looping iter l'.scope := by
  obtain ⟨frame, popped, running, under⟩ := id h
  have depth := Scope.depth_pop popped
  by_cases deep : frame.depth < l.scope.depth
  · exact ⟨frame, popped, running, under_next under deep does (depth ▸ there)⟩
  obtain rfl : frame = l.scope := under.eq_of_depth (Nat.le_of_not_lt deep)
  cases does with
  | make | drop | jump | pass | skip | decided | undecided => exact h
  | store => exact .bind popped running _ _
  | startLoop =>
    refine ⟨_, popped, running, .of_append ?_⟩
    exact (Scope.touched_setIter _ _).append (Scope.frames_pushChild _)
  | round | endLoop => exact absurd (inner _ _ rfl) (by omega)
  | enterMacro _ _ _ _ _ _ pushed =>
    refine ⟨_, popped, running, .of_append ?_⟩
    exact (Scope.touched_bindAll _ _).append (Scope.frames_pushWithParent pushed)
  | leaveMacro =>
    exact ⟨_, popped, running, .of_depth_le List.prefix_rfl (Scope.frames_truncate _ _) (depth ▸ there)⟩

end TemplateEngine
