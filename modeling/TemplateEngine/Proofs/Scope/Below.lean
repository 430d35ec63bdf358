import TemplateEngine.Proofs.Machine.Execute
import TemplateEngine.Proofs.Scope.Frames

/-!
# The frames below the innermost one

An operation pushes one frame, drops frames from the top, or changes the innermost
frame. It does one of these at most, so all frames below the ones that it touches stay
as they are: their variables, their parents and their iterators.
-/

namespace TemplateEngine
namespace Scope

variable {s s' : Scope} {i : Nat}

/-- A scope is the list of its frames. -/
theorem eq_of_frames (h : s.frames = s'.frames) : s = s' := by
  obtain ⟨inner, root⟩ := s
  obtain ⟨inner', root'⟩ := s'
  simpa [frames, and_comm] using h

/-- The frames are the same but for the innermost one. -/
def Touched (s s' : Scope) : Prop :=
  ∃ below f f', s.frames = below ++ [f] ∧ s'.frames = below ++ [f']

theorem touched_setTop (s : Scope) (f : Frame) : s.Touched (s.setTop f) := by
  obtain ⟨below, frames, replaced⟩ := s.exists_frames
  exact ⟨below, s.top, f, frames, replaced f⟩

theorem Touched.trans {s'' : Scope} (h : s.Touched s') (h' : s'.Touched s'') : s.Touched s'' := by
  obtain ⟨below, f, f', frames, frames'⟩ := h
  obtain ⟨below', g, g', same, frames''⟩ := h'
  obtain ⟨rfl, -⟩ := List.append_inj' (same.symm.trans frames') rfl
  exact ⟨below', f, g', frames, frames''⟩

theorem touched_bind (s : Scope) (name : String) (value : Value) : s.Touched (s.bind name value) :=
  s.touched_setTop _

theorem touched_setIter (s : Scope) (iter : LoopIter) : s.Touched (s.setIter iter) :=
  s.touched_setTop _

theorem touched_bindAll (s : Scope) (args : List (String × Value)) :
    s.Touched (args.foldl (fun s arg => s.bind arg.1 arg.2) s) := by
  induction args generalizing s with
  | nil =>
    obtain ⟨below, frames, -⟩ := s.exists_frames
    exact ⟨below, s.top, s.top, frames, frames⟩
  | cons arg rest ih => exact (s.touched_bind arg.1 arg.2).trans (ih _)

/-- A frame that was pushed and then changed. -/
theorem Touched.append {s₀ : Scope} {f : Frame} (pushed : s.frames = s₀.frames ++ [f])
    (h : s.Touched s') : ∃ f', s'.frames = s₀.frames ++ [f'] := by
  obtain ⟨below, g, f', frames, frames'⟩ := h
  obtain ⟨rfl, -⟩ := List.append_inj' (frames.symm.trans pushed) rfl
  exact ⟨f', frames'⟩

/-- The frames of `s` are those at the bottom of `s'`. -/
abbrev Under (s s' : Scope) : Prop := s.frames <+: s'.frames

theorem Under.frame? (h : s.Under s') (live : i < s.depth) : s'.frame? i = s.frame? i := by
  obtain ⟨above, frames⟩ := h
  rw [frame?_eq_getElem?, frame?_eq_getElem?, ← frames, List.getElem?_append_left (by simpa using live)]

theorem Under.eq_of_depth (h : s.Under s') (depth : s'.depth ≤ s.depth) : s = s' :=
  eq_of_frames (h.eq_of_length_le (by simpa using depth))

theorem Under.of_depth_le {s'' : Scope} (h : s.Under s'') (h' : s'.Under s'')
    (depth : s.depth ≤ s'.depth) : s.Under s' :=
  List.prefix_of_prefix_length_le h h' (by simpa using depth)

/-- What is under a scope stays there when its innermost frame changes, if that is no part of it. -/
theorem Under.touched {b : Scope} (h : b.Under s) (touched : s.Touched s') (below : b.depth < s.depth) :
    b.Under s' := by
  obtain ⟨rest, f, f', frames, frames'⟩ := touched
  have shorter : b.frames.length ≤ rest.length := by
    have size := congrArg List.length frames
    simp only [length_frames, List.length_append, List.length_singleton] at size ⊢
    omega
  have under : b.frames <+: rest :=
    List.prefix_of_prefix_length_le h (frames ▸ List.prefix_append rest [f]) shorter
  rw [Under, frames']
  exact under.trans (List.prefix_append rest [f'])

end Scope

namespace Level

variable {options : ExecutionOptions} {l l' : Level} {op : Program.Resolved}

/-- What an operation does to the frames: it drops some, pushes one or changes the innermost one. -/
theorem scope_cases (does : l.Does options op (.next l')) :
    l'.scope.Under l.scope ∨ (∃ f, l'.scope.frames = l.scope.frames ++ [f]) ∨
      l.scope.Touched l'.scope := by
  cases does with
  | make | drop | jump | pass | skip | decided | undecided => exact .inl List.prefix_rfl
  | store => exact .inr (.inr (Scope.touched_bind ..))
  | startLoop =>
    exact .inr (.inl ((Scope.touched_setIter _ _).append l.scope.frames_pushChild))
  | round =>
    refine .inr (.inr (Scope.Touched.trans ?_ (Scope.touched_bind ..)))
    exact (Scope.touched_setIter _ _).trans (Scope.touched_bind ..)
  | endLoop _ _ popped => exact .inl ⟨_, (Scope.frames_pop popped).symm⟩
  | enterMacro _ _ _ _ _ _ pushed =>
    exact .inr (.inl ((Scope.touched_bindAll _ _).append (Scope.frames_pushWithParent pushed)))
  | leaveMacro => exact .inl (Scope.frames_truncate ..)

/-- Frames below the innermost one stay as they are when an operation leaves them live. -/
theorem under_next {b : Scope} (under : b.Under l.scope) (below : b.depth < l.scope.depth)
    (does : l.Does options op (.next l')) (live : b.depth ≤ l'.scope.depth) : b.Under l'.scope := by
  rcases scope_cases does with fewer | ⟨f, more⟩ | touched
  · exact under.of_depth_le fewer live
  · rw [Scope.Under, more]
    exact under.trans (List.prefix_append _ _)
  · exact under.touched touched below

end Level
end TemplateEngine
