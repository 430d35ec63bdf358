import TemplateEngine.Proofs.Scope.Frames
import TemplateEngine.Proofs.Scope.Leaves

/-!
# Which frames the macros in a scope are closed over

A macro of a running program is closed over a frame by its number. In a layered scope
no frame holds a macro of the program that is closed over a frame above it. So when
frames are dropped, what is left does not refer to any of them.
-/

namespace TemplateEngine

namespace Value

/-- The value is no macro of the identity, or it is closed over a frame below a bound. -/
def ClosedBelow (id bound : Nat) : Value → Prop
  | .macroRef ref => ref.program = id → ref.closure < bound
  | _ => True

variable {id bound bound' : Nat} {value : Value}

theorem closedBelow_of_isScalar (h : value.IsScalar) : value.ClosedBelow id bound := by
  cases value with
  | macroRef => cases h
  | _ => trivial

theorem All.closedBelow_mono (h : value.All (ClosedBelow id bound)) (le : bound ≤ bound') :
    value.All (ClosedBelow id bound') := by
  intro leaf member
  have below := h leaf member
  cases leaf with
  | macroRef ref => exact fun own => Nat.lt_of_lt_of_le (below own) le
  | _ => trivial

end Value

theorem Frame.All.closedBelow_mono {id bound bound' : Nat} {f : Frame}
    (h : f.All (Value.ClosedBelow id bound)) (le : bound ≤ bound') :
    f.All (Value.ClosedBelow id bound') :=
  ⟨fun entry member => (h.vars entry member).closedBelow_mono le,
    fun iter running item member => (h.iter iter running item member).closedBelow_mono le⟩

namespace Scope

/-- No frame holds a macro of the identity that is closed over a frame above it. -/
def Layered (id : Nat) (s : Scope) : Prop :=
  ∀ (i : Nat) (f : Frame), s.frames[i]? = some f → f.All (Value.ClosedBelow id (i + 1))

variable {id : Nat} {s s' : Scope}

theorem layered_ofVars {vars : Vars} (h : Bindings.All (Value.ClosedBelow id 0) vars) :
    (ofVars vars).Layered id :=
  each_ofVars ⟨fun entry member => (h entry member).closedBelow_mono (Nat.zero_le 1), nofun⟩

/-- All macros in the scope are closed over live frames. -/
theorem Layered.all (h : s.Layered id) : s.All (Value.ClosedBelow id s.depth) := by
  refine all_iff_each.mpr fun i f found => (h i f found).closedBelow_mono ?_
  rw [← length_frames]
  exact (List.getElem?_eq_some_iff.mp found).1

theorem Layered.setTop (h : s.Layered id) {f : Frame} (hf : f.All (Value.ClosedBelow id s.depth)) :
    (s.setTop f).Layered id :=
  Each.setTop h hf

theorem Layered.push (h : s.Layered id) (parent : Option Nat) :
    Layered id { s with inner := ⟨[], parent, none⟩ :: s.inner } :=
  Each.push h (Frame.all_empty _ parent)

theorem Layered.bind (h : s.Layered id) (name : String) {value : Value}
    (hv : value.All (Value.ClosedBelow id s.depth)) : (s.bind name value).Layered id :=
  h.setTop ⟨h.all.top.vars.insert name hv, h.all.top.iter⟩

theorem Layered.bindAll (h : s.Layered id) {args : List (String × Value)}
    (ha : Bindings.All (Value.ClosedBelow id s.depth) args) :
    (args.foldl (fun s arg => s.bind arg.1 arg.2) s).Layered id := by
  induction args generalizing s with
  | nil => exact h
  | cons arg rest ih =>
    obtain ⟨first, later⟩ := List.forall_mem_cons.mp ha
    apply ih (h.bind arg.1 first)
    rwa [depth_bind]

theorem Layered.setIter (h : s.Layered id) {iter : LoopIter}
    (items : ∀ item ∈ iter.items, item.All (Value.ClosedBelow id s.depth)) :
    (s.setIter iter).Layered id :=
  h.setTop ⟨h.all.top.vars, fun _ same => by cases same; exact items⟩

theorem Layered.pushWithParent (h : s.Layered id) {parent : Nat}
    (pushed : s.pushWithParent parent = .ok s') : s'.Layered id ∧ s'.depth = s.depth + 1 := by
  unfold Scope.pushWithParent at pushed
  split at pushed <;> cases pushed
  exact ⟨h.push _, rfl⟩

theorem Layered.truncate (h : s.Layered id) (depth : Nat) : (s.truncate depth).Layered id :=
  Each.truncate h depth

theorem Layered.pop (h : s.Layered id) (popped : s.pop = .ok s') : s'.Layered id :=
  Each.pop h popped

end Scope
end TemplateEngine
