import TemplateEngine.Scope
import TemplateEngine.Proofs.Value.Alike

/-!
# Scopes that differ in the identities of programs

Two scopes are alike if their frames are, one by one. Frames are found by their
place, so that everything a scope does has alike results for alike scopes.
-/

namespace TemplateEngine

/-- The same place among alike items. -/
structure LoopIter.Alike (R : Nat → Nat → Prop) (iter iter' : LoopIter) : Prop where
  items : List.Forall₂ (Value.Alike R) iter.items iter'.items
  next : iter'.next = iter.next

structure Frame.Alike (R : Nat → Nat → Prop) (f f' : Frame) : Prop where
  vars : Bindings.Alike R f.vars f'.vars
  parent : f'.parent = f.parent
  iter : Option.Rel (LoopIter.Alike R) f.iter f'.iter

structure Scope.Alike (R : Nat → Nat → Prop) (s s' : Scope) : Prop where
  inner : List.Forall₂ (Frame.Alike R) s.inner s'.inner
  root : s.root.Alike R s'.root

variable {R S : Nat → Nat → Prop}

theorem LoopIter.Alike.mono (sub : ∀ i j, R i j → S i j) {iter iter' : LoopIter}
    (h : iter.Alike R iter') : iter.Alike S iter' :=
  ⟨Value.items_mono sub h.items, h.next⟩

theorem LoopIter.Alike.advance? {iter iter' : LoopIter} (h : iter.Alike R iter') :
    Option.Rel (fun a b => a.1.Alike R b.1 ∧ a.2.Alike R b.2) iter.advance? iter'.advance? := by
  have found := rel_getElem? h.items iter.next
  unfold LoopIter.advance?
  rw [h.next]
  generalize iter.items[iter.next]? = item at found
  generalize iter'.items[iter.next]? = item' at found
  cases found with
  | none => exact .none
  | some alike => exact .some ⟨alike, h.items, rfl⟩

theorem Frame.alike_empty (parent : Option Nat) : Frame.Alike R ⟨[], parent, none⟩ ⟨[], parent, none⟩ :=
  ⟨.nil, rfl, .none⟩

theorem Frame.Alike.mono (sub : ∀ i j, R i j → S i j) {f f' : Frame} (h : f.Alike R f') :
    f.Alike S f' := by
  refine ⟨Value.entries_mono sub h.vars, h.parent, ?_⟩
  have running := h.iter
  generalize f.iter = iter at running ⊢
  generalize f'.iter = iter' at running ⊢
  cases running with
  | none => exact .none
  | some alike => exact .some (alike.mono sub)

namespace Scope

variable {s s' : Scope}

theorem Alike.mono (sub : ∀ i j, R i j → S i j) (h : s.Alike R s') : s.Alike S s' :=
  ⟨h.inner.imp fun _ _ alike => alike.mono sub, h.root.mono sub⟩

theorem alike_ofVars {vars vars' : Vars} (h : Bindings.Alike R vars vars') :
    (ofVars vars).Alike R (ofVars vars') :=
  ⟨.nil, h, rfl, .none⟩

theorem Alike.depth (h : s.Alike R s') : s'.depth = s.depth := by
  rw [Scope.depth, Scope.depth, h.inner.length_eq]

theorem Alike.current (h : s.Alike R s') : s'.current = s.current := h.inner.length_eq.symm

theorem Alike.frame? (h : s.Alike R s') (index : Nat) :
    Option.Rel (Frame.Alike R) (s.frame? index) (s'.frame? index) := by
  unfold Scope.frame?
  rw [h.inner.length_eq]
  split
  · exact .some h.root
  · split
    · exact rel_getElem? h.inner _
    · exact .none

theorem Alike.pathFrom (h : s.Alike R s') (steps index : Nat) :
    List.Forall₂ (Frame.Alike R) (s.pathFrom steps index) (s'.pathFrom steps index) := by
  induction steps generalizing index with
  | zero => exact .nil
  | succ steps ih =>
    have found := h.frame? index
    rw [Scope.pathFrom, Scope.pathFrom]
    generalize s.frame? index = frame at found
    generalize s'.frame? index = frame' at found
    cases found with
    | none => exact .nil
    | @some frame frame' alike =>
      dsimp only
      rw [alike.parent]
      split
      · exact .cons alike .nil
      · exact .cons alike (ih _)

theorem Alike.path (h : s.Alike R s') : List.Forall₂ (Frame.Alike R) s.path s'.path := by
  rw [Scope.path, Scope.path, h.depth, h.current]
  exact h.pathFrom _ _

theorem Alike.lookup (h : s.Alike R s') (name : String) :
    Option.Rel (Value.Alike R) (s.lookup name) (s'.lookup name) := by
  have path := h.path
  unfold Scope.lookup
  generalize s.path = frames at path
  generalize s'.path = frames' at path
  induction path with
  | nil => exact .none
  | @cons frame frame' rest rest' first _ ih =>
    have found := Value.alike_get? first.vars name
    rw [List.findSome?_cons, List.findSome?_cons]
    generalize frame.vars.get? name = value at found
    generalize frame'.vars.get? name = value' at found
    cases found with
    | none => exact ih
    | some alike => exact .some alike

theorem Alike.visible (h : s.Alike R s') : Bindings.Alike R s.visible s'.visible := by
  have path := h.path
  unfold Scope.visible
  generalize s.path = frames at path
  generalize s'.path = frames' at path
  induction path with
  | nil => exact .nil
  | cons first _ ih => exact ih.insertAll first.vars

theorem Alike.top (h : s.Alike R s') : s.top.Alike R s'.top := by
  obtain ⟨inner, root⟩ := s
  obtain ⟨inner', root'⟩ := s'
  obtain ⟨inner, root⟩ := h
  cases inner with
  | nil => exact root
  | cons first _ => exact first

theorem Alike.setTop (h : s.Alike R s') {f f' : Frame} (hf : f.Alike R f') :
    (s.setTop f).Alike R (s'.setTop f') := by
  obtain ⟨inner, root⟩ := s
  obtain ⟨inner', root'⟩ := s'
  obtain ⟨inner, root⟩ := h
  cases inner with
  | nil => exact ⟨.nil, hf⟩
  | cons _ rest => exact ⟨.cons hf rest, root⟩

theorem Alike.bind (h : s.Alike R s') (name : String) {value value' : Value}
    (hv : value.Alike R value') : (s.bind name value).Alike R (s'.bind name value') :=
  h.setTop ⟨h.top.vars.insert name hv, h.top.parent, h.top.iter⟩

theorem Alike.bindAll {args args' : Vars} (hargs : Bindings.Alike R args args') (h : s.Alike R s') :
    (args.foldl (fun s arg => s.bind arg.1 arg.2) s).Alike R
      (args'.foldl (fun s arg => s.bind arg.1 arg.2) s') := by
  induction args generalizing args' s s' with
  | nil =>
    cases hargs
    exact h
  | cons arg rest ih =>
    cases hargs with
    | @cons name _ _ _ _ first others =>
      have bound := h.bind name first
      have all := ih others bound
      exact all

theorem Alike.setIter (h : s.Alike R s') {iter iter' : LoopIter} (hi : iter.Alike R iter') :
    (s.setIter iter).Alike R (s'.setIter iter') :=
  h.setTop ⟨h.top.vars, h.top.parent, .some hi⟩

theorem Alike.pushChild (h : s.Alike R s') : s.pushChild.Alike R s'.pushChild := by
  refine ⟨.cons ?_ h.inner, h.root⟩
  rw [h.current]
  exact Frame.alike_empty _

theorem Alike.pushWithParent (h : s.Alike R s') (parent : Nat) :
    ExceptRel (Scope.Alike R) (s.pushWithParent parent) (s'.pushWithParent parent) := by
  unfold Scope.pushWithParent
  rw [h.depth]
  split
  · exact .ok ⟨.cons (Frame.alike_empty _) h.inner, h.root⟩
  · exact .error _

theorem Alike.pop (h : s.Alike R s') : ExceptRel (Scope.Alike R) s.pop s'.pop := by
  obtain ⟨inner, root⟩ := s
  obtain ⟨inner', root'⟩ := s'
  obtain ⟨inner, root⟩ := h
  cases inner with
  | nil => exact .error _
  | cons _ rest => exact .ok ⟨rest, root⟩

theorem Alike.truncate (h : s.Alike R s') (depth : Nat) :
    (s.truncate depth).Alike R (s'.truncate depth) := by
  unfold Scope.truncate
  rw [h.depth]
  exact ⟨List.forall₂_drop _ h.inner, h.root⟩

end Scope
end TemplateEngine
