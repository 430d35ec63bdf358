import TemplateEngine.Proofs.Scope.Leaves
import TemplateEngine.Proofs.Value.Raws

/-!
# Safe texts in scopes

The safe texts of a scope are those of its variables and of the items that its
loops still run over. They are among the leaves of these, so that a property of all
safe texts is kept by all that is done with scopes.
-/

namespace TemplateEngine

/-- All safe texts in a frame have some property. -/
structure Frame.Within (P : String → Prop) (f : Frame) : Prop where
  vars : f.vars.Within P
  iter : ∀ iter, f.iter = some iter → ∀ item ∈ iter.items, item.Within P

/-- All safe texts in a scope have some property. -/
structure Scope.Within (P : String → Prop) (s : Scope) : Prop where
  inner : ∀ f ∈ s.inner, f.Within P
  root : s.root.Within P

variable {P : String → Prop}

theorem Frame.within_iff_all {f : Frame} : f.Within P ↔ f.All (Value.IfRaw P) := by
  constructor
  · rintro ⟨vars, iter⟩
    exact ⟨Bindings.within_iff_all.mp vars, fun iter' running item member =>
      Value.within_iff_all.mp (iter iter' running item member)⟩
  · rintro ⟨vars, iter⟩
    exact ⟨Bindings.within_iff_all.mpr vars, fun iter' running item member =>
      Value.within_iff_all.mpr (iter iter' running item member)⟩

theorem Scope.within_iff_all {s : Scope} : s.Within P ↔ s.All (Value.IfRaw P) := by
  constructor
  · rintro ⟨inner, root⟩
    exact ⟨fun f member => Frame.within_iff_all.mp (inner f member), Frame.within_iff_all.mp root⟩
  · rintro ⟨inner, root⟩
    exact ⟨fun f member => Frame.within_iff_all.mpr (inner f member), Frame.within_iff_all.mpr root⟩

end TemplateEngine
