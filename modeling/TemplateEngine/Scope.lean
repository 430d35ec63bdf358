import TemplateEngine.Value.Basic

/-!
# Scopes

Every run owns a stack of frames. A frame knows its parent, and a lookup walks
the parents from the innermost frame outwards, so the frames form a tree: a loop
frame hangs on the frame that opened the loop, the frame of a macro call on the
frame in which the macro was defined. The root frame is never removed.
-/

namespace TemplateEngine

/-- The items a loop runs over and how many of them it has taken. -/
structure LoopIter where
  items : List Value
  next : Nat

namespace LoopIter

def ofItems (items : List Value) : LoopIter := ⟨items, 0⟩

/-- The next item, and the iterator after it. -/
def advance? (iter : LoopIter) : Option (Value × LoopIter) :=
  iter.items[iter.next]?.map fun item => (item, { iter with next := iter.next + 1 })

end LoopIter

structure Frame where
  vars : Vars
  /-- Counted from the root frame, which is number 0. -/
  parent : Option Nat
  iter : Option LoopIter

/-- Frames, innermost first, over the root frame. -/
structure Scope where
  inner : List Frame
  root : Frame

inductive ScopeFault where
  | popRoot
  | deadFrame (index : Nat)
deriving DecidableEq

def ScopeFault.message : ScopeFault → String
  | popRoot => "Cannot pop the root scope frame"
  | deadFrame index => "Scope frame " ++ toString index ++ " is no longer live"

namespace Scope

/-- A stack of the root frame only. -/
def ofVars (vars : Vars) : Scope := ⟨[], ⟨vars, none, none⟩⟩

def depth (s : Scope) : Nat := s.inner.length + 1

/-- The number of the innermost frame. -/
def current (s : Scope) : Nat := s.inner.length

/-- The frame of that number, if it is live. -/
def frame? (s : Scope) (index : Nat) : Option Frame :=
  if index = 0 then some s.root
  else if index ≤ s.inner.length then s.inner[s.inner.length - index]? else none

def top (s : Scope) : Frame := s.inner.headD s.root

def setTop (s : Scope) (frame : Frame) : Scope :=
  match s.inner with
  | [] => { s with root := frame }
  | _ :: rest => { s with inner := frame :: rest }

/-- Pushes an empty frame under the innermost one. -/
def pushChild (s : Scope) : Scope :=
  { s with inner := ⟨[], some s.current, none⟩ :: s.inner }

/-- Pushes an empty frame under any live frame. -/
def pushWithParent (s : Scope) (parent : Nat) : Except ScopeFault Scope :=
  if parent < s.depth then .ok { s with inner := ⟨[], some parent, none⟩ :: s.inner }
  else .error (.deadFrame parent)

def pop (s : Scope) : Except ScopeFault Scope :=
  match s.inner with
  | [] => .error .popRoot
  | _ :: rest => .ok { s with inner := rest }

/-- Drops frames until at most `depth` remain; the root frame stays. -/
def truncate (s : Scope) (depth : Nat) : Scope :=
  { s with inner := s.inner.drop (s.depth - depth) }

/-- Binds in the innermost frame. -/
def bind (s : Scope) (name : String) (value : Value) : Scope :=
  s.setTop { s.top with vars := s.top.vars.insert name value }

def setIter (s : Scope) (iter : LoopIter) : Scope := s.setTop { s.top with iter := some iter }

/-- The numbers of a frame and its ancestors, innermost first. A parent lies
below its child, so a path is no longer than the stack. -/
def pathFrom (s : Scope) : Nat → Nat → List Frame
  | 0, _ => []
  | steps + 1, index =>
    match s.frame? index with
    | none => []
    | some frame =>
      match frame.parent with
      | none => [frame]
      | some parent => frame :: pathFrom s steps parent

/-- The frames in which a name is looked up, in order. -/
def path (s : Scope) : List Frame := s.pathFrom s.depth s.current

def lookup (s : Scope) (name : String) : Option Value :=
  s.path.findSome? fun frame => frame.vars.get? name

/-- All bindings in sight, an inner one in place of an outer one. -/
def visible (s : Scope) : Vars :=
  s.path.foldr (fun frame vars => Bindings.insertAll vars frame.vars) []

@[simp] theorem depth_ofVars (vars : Vars) : (ofVars vars).depth = 1 := rfl

@[simp] theorem depth_pushChild (s : Scope) : s.pushChild.depth = s.depth + 1 := rfl

@[simp] theorem depth_setTop (s : Scope) (frame : Frame) : (s.setTop frame).depth = s.depth := by
  cases s with
  | mk inner root => cases inner <;> rfl

@[simp] theorem depth_bind (s : Scope) (name : String) (value : Value) :
    (s.bind name value).depth = s.depth := by
  simp [bind]

@[simp] theorem depth_setIter (s : Scope) (iter : LoopIter) : (s.setIter iter).depth = s.depth := by
  simp [setIter]

theorem depth_truncate (s : Scope) (depth : Nat) :
    (s.truncate depth).depth = min s.depth (max depth 1) := by
  simp only [truncate, Scope.depth, List.length_drop]
  omega

end Scope
end TemplateEngine
