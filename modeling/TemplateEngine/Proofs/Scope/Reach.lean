import TemplateEngine.Proofs.Scope.Leaves

/-!
# Frames within reach

A program gets from a macro to the frame that it is closed over, from a frame to its
parent and to the macros that are bound in it. Whatever is pushed on top, names that are
looked up from there see no other frames of the scope below. So two scopes that agree on
the frames within reach answer alike.
-/

namespace TemplateEngine

/-- A macro of the program is closed over one of these frames. -/
def Value.ClosedIn (id : Nat) (K : Nat → Prop) : Value → Prop
  | .macroRef ref => ref.program = id → K ref.closure
  | _ => True

theorem Value.closedIn_of_isScalar {id : Nat} {K : Nat → Prop} (value : Value)
    (h : value.IsScalar) : value.ClosedIn id K := by
  cases value with
  | macroRef => cases h
  | _ => trivial

/-- The frame leads only to these frames, by its parent and by macros that are bound in it. -/
structure Frame.Inside (id : Nat) (K : Nat → Prop) (f : Frame) : Prop where
  parent : ∀ p, f.parent = some p → K p
  vars : Bindings.All (Value.ClosedIn id K) f.vars

namespace Scope

/-- The frames that can be reached from the macros of a program in some values. -/
inductive InReach (id : Nat) (s : Scope) (values : List Value) : Nat → Prop
  | held {value ref} : value ∈ values → .macroRef ref ∈ value.leaves → ref.program = id →
      InReach id s values ref.closure
  | parent {i f p} : InReach id s values i → s.frame? i = some f → f.parent = some p →
      InReach id s values p
  | bound {i f entry ref} : InReach id s values i → s.frame? i = some f → entry ∈ f.vars →
      .macroRef ref ∈ entry.2.leaves → ref.program = id → InReach id s values ref.closure

/-- Some more frames, innermost first, on top of a scope. -/
def topped (s : Scope) (own : List Frame) : Scope := { s with inner := own ++ s.inner }

/-- The scopes are equally deep and agree on these frames, which lead to no others but
those that may be pushed on top. -/
structure AgreeIn (id : Nat) (K : Nat → Prop) (s s' : Scope) : Prop where
  depth : s'.inner.length = s.inner.length
  frames : ∀ i, i ≤ s.inner.length → K i → s'.frame? i = s.frame? i
  inside : ∀ i f, K i → s.frame? i = some f → f.Inside id K
  above : ∀ i, s.inner.length < i → K i

variable {id : Nat} {K : Nat → Prop} {s s' : Scope} {own : List Frame} {i : Nat} {f : Frame}

/-- The frames within reach and all that are pushed lead to no others. -/
theorem agreeIn_inReach {values : List Value} (depth : s'.depth = s.depth)
    (agree : ∀ i, InReach id s values i → s'.frame? i = s.frame? i) :
    AgreeIn id (fun i => InReach id s values i ∨ s.inner.length < i) s s' := by
  refine ⟨Nat.succ.inj depth, ?_, ?_, fun i above => .inr above⟩
  · rintro i live (reach | above)
    · exact agree i reach
    · omega
  · rintro i f (reach | above) found
    · refine ⟨fun p parent => .inl (.parent reach found parent), ?_⟩
      intro entry bound leaf member
      cases leaf with
      | macroRef ref => exact fun same => .inl (.bound reach found bound member same)
      | _ => trivial
    · rw [frame?, if_neg (by omega), if_neg (by omega)] at found
      cases found

theorem frame?_topped_below (live : i ≤ s.inner.length) : (s.topped own).frame? i = s.frame? i := by
  unfold frame? topped
  by_cases root : i = 0
  · rw [if_pos root, if_pos root]
  · have length : (own ++ s.inner).length - i = own.length + (s.inner.length - i) := by
      rw [List.length_append]
      omega
    rw [if_neg root, if_neg root, if_pos live, if_pos (by rw [List.length_append]; omega), length,
      List.getElem?_append_right (Nat.le_add_right _ _), Nat.add_sub_cancel_left]

theorem frame?_topped_above (above : s.inner.length < i) : (s.topped own).frame? i =
    if i ≤ own.length + s.inner.length then own[own.length + s.inner.length - i]? else none := by
  unfold frame? topped
  rw [if_neg (by omega), List.length_append]
  split
  · rw [List.getElem?_append_left (by omega)]
  · rfl

namespace AgreeIn

variable (h : AgreeIn id K s s')
include h

theorem frame?_topped (known : K i) : (s'.topped own).frame? i = (s.topped own).frame? i := by
  by_cases live : i ≤ s.inner.length
  · rw [frame?_topped_below live, frame?_topped_below (h.depth ▸ live)]
    exact h.frames i live known
  · have above : s.inner.length < i := Nat.lt_of_not_le live
    rw [frame?_topped_above above, frame?_topped_above (h.depth.symm ▸ above), h.depth]

theorem inside_topped (inside : ∀ f ∈ own, f.Inside id K) (known : K i)
    (found : (s.topped own).frame? i = some f) : f.Inside id K := by
  by_cases live : i ≤ s.inner.length
  · rw [frame?_topped_below live] at found
    exact h.inside i f known found
  · rw [frame?_topped_above (Nat.lt_of_not_le live)] at found
    split at found
    · exact inside f (List.mem_of_getElem? found)
    · cases found

theorem pathFrom_topped (inside : ∀ f ∈ own, f.Inside id K) (steps : Nat) (known : K i) :
    (s'.topped own).pathFrom steps i = (s.topped own).pathFrom steps i ∧
      ∀ f ∈ (s.topped own).pathFrom steps i, f.Inside id K := by
  induction steps generalizing i with
  | zero => exact ⟨rfl, List.forall_mem_nil _⟩
  | succ steps ih =>
    rw [pathFrom, pathFrom, h.frame?_topped known]
    cases found : (s.topped own).frame? i with
    | none => exact ⟨rfl, List.forall_mem_nil _⟩
    | some f =>
      have here := h.inside_topped inside known found
      dsimp only
      cases parent : f.parent with
      | none => exact ⟨rfl, List.forall_mem_singleton.mpr here⟩
      | some p =>
        obtain ⟨same, later⟩ := ih (here.parent p parent)
        exact ⟨congrArg _ same, List.forall_mem_cons.mpr ⟨here, later⟩⟩

theorem current_topped : (s'.topped own).current = (s.topped own).current := by
  simp [current, topped, h.depth]

theorem depth_topped : (s'.topped own).depth = (s.topped own).depth := by
  simp [Scope.depth, topped, h.depth]

theorem known_current (own_ne : own ≠ []) : K (s.topped own).current := by
  apply h.above
  have pos := List.length_pos_iff.mpr own_ne
  simp only [current, topped, List.length_append]
  omega

theorem path_topped (own_ne : own ≠ []) (inside : ∀ f ∈ own, f.Inside id K) :
    (s'.topped own).path = (s.topped own).path ∧ ∀ f ∈ (s.topped own).path, f.Inside id K := by
  rw [path, path, h.depth_topped, h.current_topped]
  exact h.pathFrom_topped inside _ (h.known_current own_ne)

theorem lookup_topped (own_ne : own ≠ []) (inside : ∀ f ∈ own, f.Inside id K) (name : String) :
    (s'.topped own).lookup name = (s.topped own).lookup name := by
  rw [lookup, lookup, (h.path_topped own_ne inside).1]

/-- A macro that is found by its name is closed over a frame within reach. -/
theorem closedIn_lookup (own_ne : own ≠ []) (inside : ∀ f ∈ own, f.Inside id K) {name : String}
    {value : Value} (found : (s.topped own).lookup name = some value) :
    value.All (Value.ClosedIn id K) := by
  obtain ⟨f, member, bound⟩ := List.exists_of_findSome?_eq_some found
  exact Value.all_get? ((h.path_topped own_ne inside).2 f member).vars bound

theorem visible_topped (own_ne : own ≠ []) (inside : ∀ f ∈ own, f.Inside id K) :
    (s'.topped own).visible = (s.topped own).visible := by
  rw [visible, visible, (h.path_topped own_ne inside).1]

end AgreeIn
end Scope
end TemplateEngine
