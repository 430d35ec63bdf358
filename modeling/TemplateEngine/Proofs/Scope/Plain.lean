import TemplateEngine.Scope

/-!
# Scopes without their loop iterators

Names are looked up without regard to the iterators that loops keep in their
frames. `Scope.plain` is a scope without them and `Scope.iters` are the
iterators alone, so that the two together determine the frames above the root.
-/

namespace TemplateEngine

def Frame.plain (f : Frame) : Frame := { f with iter := none }

namespace Scope

/-- The scope with no iterator in any frame. -/
def plain (s : Scope) : Scope := ⟨s.inner.map Frame.plain, s.root.plain⟩

/-- The iterators of the frames above the root, innermost first. -/
def iters (s : Scope) : List (Option LoopIter) := s.inner.map Frame.iter

variable (s : Scope)

@[simp] theorem plain_ofVars (vars : Vars) : (ofVars vars).plain = ofVars vars := rfl

@[simp] theorem iters_ofVars (vars : Vars) : (ofVars vars).iters = [] := rfl

@[simp] theorem depth_plain : s.plain.depth = s.depth := by simp [plain, depth]

@[simp] theorem current_plain : s.plain.current = s.current := by simp [plain, current]

@[simp] theorem length_iters : s.iters.length = s.inner.length := by simp [iters]

theorem frame?_plain (index : Nat) : s.plain.frame? index = (s.frame? index).map Frame.plain := by
  unfold frame?
  split
  · rfl
  · simp only [plain, List.length_map]
    split
    · simp
    · rfl

theorem pathFrom_plain (steps index : Nat) :
    s.plain.pathFrom steps index = (s.pathFrom steps index).map Frame.plain := by
  induction steps generalizing index with
  | zero => rfl
  | succ steps ih =>
    rw [pathFrom, pathFrom, frame?_plain]
    cases s.frame? index with
    | none => rfl
    | some frame =>
      obtain ⟨vars, parent, iter⟩ := frame
      cases parent with
      | none => rfl
      | some parent => simp [Frame.plain, ih]

theorem path_plain : s.plain.path = s.path.map Frame.plain := by
  simp [path, pathFrom_plain]

@[simp] theorem lookup_plain (name : String) : s.plain.lookup name = s.lookup name := by
  rw [lookup, lookup, path_plain, List.findSome?_map]
  rfl

@[simp] theorem visible_plain : s.plain.visible = s.visible := by
  rw [visible, visible, path_plain, List.foldr_map]
  rfl

@[simp] theorem plain_bind (name : String) (value : Value) :
    (s.bind name value).plain = s.plain.bind name value := by
  obtain ⟨inner, root⟩ := s
  cases inner <;> rfl

@[simp] theorem iters_bind (name : String) (value : Value) :
    (s.bind name value).iters = s.iters := by
  obtain ⟨inner, root⟩ := s
  cases inner <;> rfl

theorem plain_bindAll (args : List (String × Value)) :
    (args.foldl (fun s arg => s.bind arg.1 arg.2) s).plain
      = args.foldl (fun s arg => s.bind arg.1 arg.2) s.plain := by
  induction args generalizing s with
  | nil => rfl
  | cons arg rest ih => simp [ih]

theorem iters_bindAll (args : List (String × Value)) :
    (args.foldl (fun s arg => s.bind arg.1 arg.2) s).iters = s.iters := by
  induction args generalizing s with
  | nil => rfl
  | cons arg rest ih => simp [ih]

@[simp] theorem plain_setIter (iter : LoopIter) : (s.setIter iter).plain = s.plain := by
  obtain ⟨inner, root⟩ := s
  cases inner <;> rfl

@[simp] theorem plain_pushChild : s.pushChild.plain = s.plain.pushChild := by
  simp [plain, pushChild, Frame.plain, current]

@[simp] theorem iters_setIter_pushChild (iter : LoopIter) :
    (s.pushChild.setIter iter).iters = some iter :: s.iters := rfl

/-- With the same iterators otherwise, the innermost one is replaced. -/
theorem iters_setIter {old : Option LoopIter} {rest : List (Option LoopIter)} (iter : LoopIter)
    (h : s.iters = old :: rest) : (s.setIter iter).iters = some iter :: rest := by
  obtain ⟨inner, root⟩ := s
  cases inner with
  | nil => cases h
  | cons frame inner =>
    obtain ⟨-, rfl⟩ := List.cons.inj h
    rfl

theorem top_iter {iter : Option LoopIter} {rest : List (Option LoopIter)}
    (h : s.iters = iter :: rest) : s.top.iter = iter := by
  obtain ⟨inner, root⟩ := s
  cases inner with
  | nil => cases h
  | cons frame inner =>
    obtain ⟨rfl, -⟩ := List.cons.inj h
    rfl

theorem pushWithParent_plain (parent : Nat) :
    s.plain.pushWithParent parent = (s.pushWithParent parent).map plain := by
  unfold pushWithParent
  rw [depth_plain]
  split <;> rfl

theorem iters_pushWithParent {parent : Nat} {s' : Scope} (h : s.pushWithParent parent = .ok s') :
    s'.iters = none :: s.iters := by
  unfold pushWithParent at h
  split at h
  · cases h
    rfl
  · cases h

@[simp] theorem plain_truncate (depth : Nat) :
    (s.truncate depth).plain = s.plain.truncate depth := by
  simp [plain, truncate, Scope.depth]

/-- Truncating to a depth keeps the iterators of the frames up to it. -/
theorem iters_truncate {above below : List (Option LoopIter)} (h : s.iters = above ++ below) :
    (s.truncate (below.length + 1)).iters = below := by
  have size : s.inner.length = above.length + below.length := by
    rw [← length_iters, h, List.length_append]
  have excess : s.inner.length + 1 - (below.length + 1) = above.length := by omega
  rw [truncate, iters, depth, excess, List.map_drop]
  exact (congrArg (List.drop above.length) h).trans List.drop_left

/-- Popping the innermost frame leaves the frames below it. -/
theorem pop_eq_truncate {iter : Option LoopIter} {rest : List (Option LoopIter)}
    (h : s.iters = iter :: rest) : s.pop = .ok (s.truncate (rest.length + 1)) := by
  obtain ⟨inner, root⟩ := s
  cases inner with
  | nil => cases h
  | cons frame inner =>
    obtain ⟨-, rfl⟩ := List.cons.inj h
    simp [pop, truncate, depth]

end Scope
end TemplateEngine
