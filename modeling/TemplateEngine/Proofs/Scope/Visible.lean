import TemplateEngine.Proofs.Scope.Frames

/-!
# What is visible is what a lookup finds

A lookup goes from the innermost frame outwards and stops at the first frame that binds
the name. What is visible is collected over the same frames, an inner binding in place of
an outer one. In a scope that is made by pushing and popping frames both walks end at the
root, and they agree on every name.
-/

namespace TemplateEngine

/-- The frame of this number has its parent below it, unless it is the root, and has each of its
names once. -/
structure Frame.Fits (i : Nat) (f : Frame) : Prop where
  parent : i = 0 ∧ f.parent = none ∨ ∃ j < i, f.parent = some j
  ordered : f.vars.Ordered

namespace Scope

/-- The scopes that operations lead to from a root frame with some variables. A loop may be given
any iterator, so also the one it has after its next item. -/
inductive Reached (vars : Vars) : Scope → Prop
  | root : Reached vars (.ofVars vars)
  | pushChild {s} : Reached vars s → Reached vars s.pushChild
  | pushWithParent {s s' parent} : Reached vars s → s.pushWithParent parent = .ok s' →
      Reached vars s'
  | pop {s s'} : Reached vars s → s.pop = .ok s' → Reached vars s'
  | truncate {s} (depth) : Reached vars s → Reached vars (s.truncate depth)
  | bind {s} (name value) : Reached vars s → Reached vars (s.bind name value)
  | setIter {s} (iter) : Reached vars s → Reached vars (s.setIter iter)

variable {s s' : Scope} {vars : Vars} {i : Nat} {path : List Frame} {name : String}

theorem Reached.bindAll (h : s.Reached vars) (args : List (String × Value)) :
    (args.foldl (fun s arg => s.bind arg.1 arg.2) s).Reached vars := by
  induction args generalizing s with
  | nil => exact h
  | cons arg rest ih => exact ih (h.bind arg.1 arg.2)

/-- Whatever is done with a scope, its frames fit. -/
theorem Reached.fits (h : s.Reached vars) (ordered : vars.Ordered) : s.Each Frame.Fits := by
  induction h with
  | root => exact each_ofVars ⟨.inl ⟨rfl, rfl⟩, ordered⟩
  | pushChild _ ih => exact ih.push ⟨.inr ⟨_, Nat.lt_succ_self _, rfl⟩, Bindings.ordered_nil⟩
  | pushWithParent _ pushed ih =>
    unfold Scope.pushWithParent at pushed
    split at pushed
    case isTrue live =>
      cases pushed
      exact ih.push ⟨.inr ⟨_, live, rfl⟩, Bindings.ordered_nil⟩
    case isFalse => cases pushed
  | pop _ popped ih => exact ih.pop popped
  | truncate depth _ ih => exact ih.truncate depth
  | bind name value _ ih => exact ih.setTop ⟨ih.top.parent, ih.top.ordered.insert name value⟩
  | setIter iter _ ih => exact ih.setTop ⟨ih.top.parent, ih.top.ordered⟩

theorem rooted_of_fits (fits : s.Each Frame.Fits) : s.Rooted where
  root := by
    rcases (fits 0 s.root rfl).parent with ⟨-, none⟩ | ⟨j, below, -⟩
    · exact none
    · exact absurd below (Nat.not_lt_zero j)
  parent i f pos found := by
    rw [frame?_eq_getElem?] at found
    rcases (fits i f found).parent with ⟨zero, -⟩ | below
    · omega
    · exact below

theorem Ancestors.exists_frame (h : s.Ancestors i path) : ∀ f ∈ path, ∃ j, s.frame? j = some f := by
  induction h with
  | root found => exact List.forall_mem_singleton.mpr ⟨_, found⟩
  | child found _ _ ih => exact List.forall_mem_cons.mpr ⟨⟨_, found⟩, ih⟩

theorem Reached.rooted (h : s.Reached vars) (ordered : vars.Ordered) : s.Rooted :=
  rooted_of_fits (h.fits ordered)

theorem Reached.ordered_path (h : s.Reached vars) (ordered : vars.Ordered) :
    ∀ f ∈ s.path, f.vars.Ordered := by
  intro f member
  obtain ⟨j, found⟩ := (h.rooted ordered).path.exists_frame f member
  rw [frame?_eq_getElem?] at found
  exact (h.fits ordered j f found).ordered

theorem lookup_ofVars (vars : Vars) (name : String) : (ofVars vars).lookup name = vars.get? name := by
  have alone : (ofVars vars).path = [⟨vars, none, none⟩] := rfl
  rw [lookup, alone, List.findSome?_singleton]

theorem ordered_visible (s : Scope) : s.visible.Ordered := by
  rw [visible]
  induction s.path with
  | nil => exact Bindings.ordered_nil
  | cons f rest ih => exact ih.insertAll f.vars

/-- Collecting bindings from the outermost frame inwards is looking them up from the innermost
frame outwards. -/
theorem get?_foldr_insertAll (ordered : ∀ f ∈ path, f.vars.Ordered) :
    Bindings.get? name (path.foldr (fun frame vars => Bindings.insertAll vars frame.vars) [])
      = path.findSome? fun frame => frame.vars.get? name := by
  induction path with
  | nil => rfl
  | cons f rest ih =>
    obtain ⟨first, later⟩ := List.forall_mem_cons.mp ordered
    rw [List.foldr_cons, Bindings.get?_insertAll, first.get?_reverse, ih later, List.findSome?_cons]
    cases f.vars.get? name <;> rfl

theorem Reached.get?_visible (h : s.Reached vars) (ordered : vars.Ordered) (name : String) :
    s.visible.get? name = s.lookup name :=
  get?_foldr_insertAll (h.ordered_path ordered)

end Scope
end TemplateEngine
