import TemplateEngine.Scope

/-!
# The tree of frames

Frames are numbered from the root on. The shape of a scope is the parent of each
frame and whether it is a frame of a loop. In a well-formed shape the root has no
parent and is no loop, and any other frame hangs on one with a smaller number. The
ancestors of a frame are then all live, and the last of them is the root.
-/

namespace TemplateEngine

/-- The parent of a frame, and whether it is the frame of a loop. -/
def Frame.shape (f : Frame) : Option Nat × Bool := (f.parent, f.iter.isSome)

namespace Scope

/-- All frames in the order of their numbers. -/
def frames (s : Scope) : List Frame := s.root :: s.inner.reverse

def shape (s : Scope) : List (Option Nat × Bool) := s.frames.map Frame.shape

/-- The root has no parent and is no loop, and others hang on smaller numbers. -/
structure Grows (shape : List (Option Nat × Bool)) : Prop where
  root : shape[0]? = some (none, false)
  parent : ∀ i p, 0 < i → shape[i]? = some p → ∃ j < i, p.1 = some j

/-- The tree alone, whichever frames are loops. -/
structure Rooted (s : Scope) : Prop where
  root : s.root.parent = none
  parent : ∀ i f, 0 < i → s.frame? i = some f → ∃ j < i, f.parent = some j

/-- The frames from one on by the links to their parents, up to one that has none. -/
inductive Ancestors (s : Scope) : Nat → List Frame → Prop
  | root {i f} : s.frame? i = some f → f.parent = none → Ancestors s i [f]
  | child {i f p rest} : s.frame? i = some f → f.parent = some p → Ancestors s p rest →
      Ancestors s i (f :: rest)

variable {s s' : Scope} {shape : List (Option Nat × Bool)}

theorem frame?_eq_getElem? (s : Scope) (i : Nat) : s.frame? i = s.frames[i]? := by
  unfold frame? frames
  cases i with
  | zero => rfl
  | succ j =>
    rw [if_neg (Nat.succ_ne_zero j), List.getElem?_cons_succ]
    split
    case isTrue live =>
      have place : s.inner.length - (j + 1) = s.inner.length - 1 - j := by omega
      rw [List.getElem?_reverse live, place]
    case isFalse ended =>
      rw [List.getElem?_eq_none]
      rw [List.length_reverse]
      omega

@[simp] theorem length_frames (s : Scope) : s.frames.length = s.depth := by
  simp [frames, depth]

@[simp] theorem length_shape (s : Scope) : s.shape.length = s.depth := by
  simp [Scope.shape]

theorem shape_getElem? (s : Scope) (i : Nat) : s.shape[i]? = (s.frame? i).map Frame.shape := by
  rw [Scope.shape, List.getElem?_map, frame?_eq_getElem?]

/-- The frames below the innermost one stay when that one is replaced. -/
theorem exists_frames (s : Scope) :
    ∃ below, s.frames = below ++ [s.top] ∧ ∀ f, (s.setTop f).frames = below ++ [f] := by
  obtain ⟨inner, root⟩ := s
  cases inner with
  | nil => exact ⟨[], rfl, fun f => rfl⟩
  | cons f rest => exact ⟨root :: rest.reverse, by simp [frames, top], by simp [frames, setTop]⟩

/-- The number of the innermost frame is that of the frames below it. -/
theorem length_below {below : List Frame} {f : Frame} (frames : s.frames = below ++ [f]) :
    below.length = s.current := by
  have size := congrArg List.length frames
  rw [length_frames, List.length_append, List.length_singleton] at size
  exact (Nat.succ.inj size).symm

theorem frames_pushChild (s : Scope) :
    s.pushChild.frames = s.frames ++ [⟨[], some s.current, none⟩] := by
  simp [frames, pushChild]

theorem frames_pushWithParent {parent : Nat} (pushed : s.pushWithParent parent = .ok s') :
    s'.frames = s.frames ++ [⟨[], some parent, none⟩] := by
  unfold pushWithParent at pushed
  split at pushed
  · cases pushed
    simp [frames]
  · cases pushed

theorem frames_pop (popped : s.pop = .ok s') : s.frames = s'.frames ++ [s.top] := by
  obtain ⟨inner, root⟩ := s
  cases inner with
  | nil => cases popped
  | cons f rest =>
    cases popped
    simp [frames, top]

/-- The root stays whatever the depth. -/
theorem frames_truncate_eq (s : Scope) (depth : Nat) :
    (s.truncate depth).frames = s.frames.take (max depth 1) := by
  have dropped : s.inner.drop (s.inner.length + 1 - depth)
      = s.inner.drop (s.inner.length - (max depth 1 - 1)) := by
    by_cases zero : depth = 0
    · simp [zero]
    · congr 1
      omega
  obtain ⟨k, eq⟩ : ∃ k, max depth 1 = k + 1 := ⟨max depth 1 - 1, by omega⟩
  rw [eq, Nat.add_sub_cancel] at dropped
  simp [frames, truncate, Scope.depth, eq, dropped, List.take_reverse]

theorem frames_truncate (s : Scope) (depth : Nat) : (s.truncate depth).frames <+: s.frames := by
  rw [frames_truncate_eq]
  exact List.take_prefix _ _

theorem shape_setTop {f : Frame} (same : f.shape = s.top.shape) : (s.setTop f).shape = s.shape := by
  obtain ⟨below, eq, replaced⟩ := s.exists_frames
  simp [Scope.shape, eq, replaced, same]

@[simp] theorem shape_ofVars (vars : Vars) : (ofVars vars).shape = [(none, false)] := rfl

@[simp] theorem shape_bind (s : Scope) (name : String) (value : Value) :
    (s.bind name value).shape = s.shape := shape_setTop rfl

@[simp] theorem shape_bindAll (s : Scope) (args : List (String × Value)) :
    (args.foldl (fun s arg => s.bind arg.1 arg.2) s).shape = s.shape := by
  induction args generalizing s with
  | nil => rfl
  | cons arg rest ih => simp [ih]

theorem shape_setIter (running : s.top.iter.isSome) (after : LoopIter) :
    (s.setIter after).shape = s.shape := by
  apply shape_setTop
  simp [Frame.shape, running]

@[simp] theorem shape_startLoop (s : Scope) (iter : LoopIter) :
    (s.pushChild.setIter iter).shape = s.shape ++ [(some s.current, true)] := by
  simp [Scope.shape, frames, pushChild, setIter, setTop, top, Frame.shape]

theorem shape_pushWithParent {parent : Nat} (pushed : s.pushWithParent parent = .ok s') :
    parent < s.depth ∧ s'.shape = s.shape ++ [(some parent, false)] := by
  constructor
  · unfold pushWithParent at pushed
    split at pushed
    case isTrue live => exact live
    case isFalse => cases pushed
  · rw [Scope.shape, frames_pushWithParent pushed, List.map_append]
    rfl

theorem shape_pop (popped : s.pop = .ok s') : s.shape = s'.shape ++ [s.top.shape] := by
  rw [Scope.shape, frames_pop popped, List.map_append]
  rfl

theorem pop_ne_error (deep : 1 < s.depth) {fault : ScopeFault} : s.pop ≠ .error fault := by
  obtain ⟨inner, root⟩ := s
  cases inner with
  | nil => exact absurd deep (by simp [depth])
  | cons f rest =>
    intro stuck
    cases stuck

theorem shape_truncate (s : Scope) (depth : Nat) :
    (s.truncate depth).shape = s.shape.take (max depth 1) := by
  rw [Scope.shape, frames_truncate_eq, List.map_take]
  rfl

/-- Each frame has a property that may depend on its number. -/
def Each (P : Nat → Frame → Prop) (s : Scope) : Prop :=
  ∀ (i : Nat) (f : Frame), s.frames[i]? = some f → P i f

section

variable {P : Nat → Frame → Prop}

theorem each_ofVars {vars : Vars} (h : P 0 ⟨vars, none, none⟩) : (ofVars vars).Each P := by
  intro i f found
  cases i with
  | zero =>
    obtain rfl := Option.some.inj found
    exact h
  | succ i => cases found

/-- Each frame has the property if all but the innermost one have, and that one has. -/
theorem each_of_frames {below : List Frame} {f : Frame} (frames : s.frames = below ++ [f])
    (lower : ∀ (i : Nat) (f : Frame), below[i]? = some f → P i f) (last : P s.current f) :
    s.Each P := by
  intro i f' found
  rw [frames] at found
  by_cases old : i < below.length
  · rw [List.getElem?_append_left old] at found
    exact lower i f' found
  · rw [List.getElem?_append_right (Nat.le_of_not_lt old)] at found
    obtain ⟨place, rfl⟩ := List.getElem?_eq_some_iff.mp found
    have here : i = s.current := by
      rw [List.length_singleton] at place
      rw [← length_below frames]
      omega
    simpa [here] using last

namespace Each

variable (h : s.Each P)
include h

theorem top : P s.current s.top := by
  obtain ⟨below, frames, -⟩ := s.exists_frames
  refine h s.current s.top ?_
  rw [frames, ← length_below frames, List.getElem?_concat_length]

theorem setTop {f : Frame} (hf : P s.current f) : (s.setTop f).Each P := by
  obtain ⟨below, frames, replaced⟩ := s.exists_frames
  have same : (s.setTop f).current = s.current := by
    rw [← length_below frames, ← length_below (replaced f)]
  refine each_of_frames (replaced f) ?_ (same ▸ hf)
  intro i f' found
  refine h i f' ?_
  rw [frames, List.getElem?_append_left (List.getElem?_eq_some_iff.mp found).1]
  exact found

theorem push {parent : Option Nat} (hf : P s.depth ⟨[], parent, none⟩) :
    Each P { s with inner := ⟨[], parent, none⟩ :: s.inner } := by
  have frames : (⟨⟨[], parent, none⟩ :: s.inner, s.root⟩ : Scope).frames
      = s.frames ++ [⟨[], parent, none⟩] := by
    simp [Scope.frames]
  exact each_of_frames frames h hf

theorem of_prefix (fewer : s'.frames <+: s.frames) : s'.Each P := by
  obtain ⟨dropped, eq⟩ := fewer
  intro i f found
  refine h i f ?_
  rw [← eq, List.getElem?_append_left (List.getElem?_eq_some_iff.mp found).1]
  exact found

theorem truncate (depth : Nat) : (s.truncate depth).Each P :=
  h.of_prefix (s.frames_truncate depth)

theorem pop (popped : s.pop = .ok s') : s'.Each P :=
  h.of_prefix ⟨_, (frames_pop popped).symm⟩

end Each
end

/-- Which of the frames above the root are loops. -/
def loops (s : Scope) : List Bool := (s.shape.map Prod.snd).tail

@[simp] theorem length_loops (s : Scope) : s.loops.length = s.inner.length := by
  simp [loops, Scope.depth]

theorem loops_congr (same : s'.shape = s.shape) : s'.loops = s.loops := by
  rw [loops, same, loops]

/-- A frame on top of others is never the root. -/
theorem loops_of_append {p : Option Nat × Bool} (h : s'.shape = s.shape ++ [p]) :
    s'.loops = s.loops ++ [p.2] := by
  rw [loops, h, List.map_append, loops, Scope.shape, frames]
  rfl

theorem loops_truncate (s : Scope) (n : Nat) : (s.truncate (n + 1)).loops = s.loops.take n := by
  have some : max (n + 1) 1 = n + 1 := by omega
  rw [loops, shape_truncate, some, List.map_take, loops, Scope.shape, frames]
  rfl

namespace Grows

theorem ofVars (vars : Vars) : Grows (Scope.ofVars vars).shape := by
  refine ⟨rfl, ?_⟩
  intro i p pos found
  have short := (List.getElem?_eq_some_iff.mp found).1
  simp at short
  omega

theorem append (h : Grows shape) {parent : Nat} (live : parent < shape.length) (loop : Bool) :
    Grows (shape ++ [(some parent, loop)]) := by
  refine ⟨?_, ?_⟩
  · rw [List.getElem?_append_left (by omega)]
    exact h.root
  · intro i p pos found
    by_cases old : i < shape.length
    · rw [List.getElem?_append_left old] at found
      exact h.parent i p pos found
    · rw [List.getElem?_append_right (by omega)] at found
      obtain ⟨-, rfl⟩ := List.getElem?_eq_some_iff.mp found
      exact ⟨parent, by omega, by simp⟩

theorem take (h : Grows shape) {n : Nat} (pos : 0 < n) : Grows (shape.take n) := by
  refine ⟨?_, ?_⟩
  · rw [List.getElem?_take_of_lt pos]
    exact h.root
  · intro i p later found
    by_cases kept : i < n
    · rw [List.getElem?_take_of_lt kept] at found
      exact h.parent i p later found
    · rw [List.getElem?_take_eq_none (by omega)] at found
      cases found

theorem prefix_of_append (h : Grows (shape ++ [p])) (some : 0 < shape.length) : Grows shape := by
  have taken := h.take some
  rwa [List.take_left] at taken

/-- Only a frame above the root can be one of a loop. -/
theorem depth_of_loop (h : Grows s.shape) (loop : s.top.iter.isSome) : 1 < s.depth := by
  obtain ⟨inner, root⟩ := s
  cases inner with
  | nil =>
    have none : (none, false) = root.shape := (Option.some.inj h.root).symm
    have plain : root.iter.isSome = false := (congrArg Prod.snd none).symm
    simp [top, plain] at loop
  | cons f rest => simp [depth]

theorem rooted (h : Grows s.shape) : s.Rooted where
  root := (congrArg Prod.fst (Option.some.inj h.root) :)
  parent i f pos found := by
    apply h.parent i f.shape pos
    rw [shape_getElem?, found]
    rfl

end Grows

namespace Rooted

/-- The walk from a live frame over its ancestors ends in time. -/
theorem pathFrom (h : s.Rooted) {steps i : Nat} (live : i < s.depth) (enough : i < steps) :
    s.Ancestors i (s.pathFrom steps i) := by
  induction steps generalizing i with
  | zero => omega
  | succ steps ih =>
    rw [Scope.pathFrom]
    obtain ⟨f, found⟩ : ∃ f, s.frame? i = some f := by
      have place : i < s.frames.length := by simpa using live
      rw [frame?_eq_getElem?]
      exact ⟨s.frames[i], List.getElem?_eq_getElem place⟩
    simp only [found]
    cases parent : f.parent with
    | none => exact .root found parent
    | some p =>
      have pos : i ≠ 0 := by
        rintro rfl
        obtain rfl : s.root = f := Option.some.inj found
        rw [h.root] at parent
        cases parent
      obtain ⟨j, below, same⟩ := h.parent i f (Nat.pos_of_ne_zero pos) found
      obtain rfl : p = j := Option.some.inj (parent.symm.trans same)
      exact .child found parent (ih (by omega) (by omega))

theorem path (h : s.Rooted) : s.Ancestors s.current s.path :=
  h.pathFrom (Nat.lt_succ_self _) (Nat.lt_succ_self _)

end Rooted
end Scope
end TemplateEngine
