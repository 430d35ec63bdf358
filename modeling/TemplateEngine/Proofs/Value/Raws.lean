import TemplateEngine.Proofs.Value.Leaves

/-!
# Safe texts in values

The safe texts of a value are those at any depth of it, so they are among its leaves,
and what holds of all of them is a property of all leaves. Apart from marking a text as
safe no filter makes one that is not escaped.
-/

namespace TemplateEngine

namespace Value

mutual

/-- The safe texts in a value, at any depth. -/
def raws : Value → List String
  | raw s => [s]
  | list items => rawsOfItems items
  | map entries => rawsOfEntries entries
  | undef | bool _ | int _ | float _ | str _ | macroRef _ => []

def rawsOfItems : List Value → List String
  | [] => []
  | item :: rest => raws item ++ rawsOfItems rest

def rawsOfEntries : List (String × Value) → List String
  | [] => []
  | (_, value) :: rest => raws value ++ rawsOfEntries rest

end

/-- All safe texts in a value have some property. -/
def Within (P : String → Prop) (value : Value) : Prop := ∀ s ∈ value.raws, P s

/-- The property of texts holds of the value if it is a safe text. -/
def IfRaw (P : String → Prop) (value : Value) : Prop := ∀ s, value = raw s → P s

mutual

/-- The safe texts in a value are leaves of it. -/
theorem mem_raws {s : String} : ∀ value : Value, s ∈ value.raws ↔ raw s ∈ value.leaves
  | raw t => by simp [raws, leaves]
  | list items => by rw [raws, leaves, mem_rawsOfItems items]
  | map entries => by rw [raws, leaves, mem_rawsOfEntries entries]
  | undef | bool _ | int _ | float _ | str _ | macroRef _ => by simp [raws, leaves]

theorem mem_rawsOfItems {s : String} : ∀ items : List Value,
    s ∈ rawsOfItems items ↔ raw s ∈ leavesOfItems items
  | [] => by simp [rawsOfItems, leavesOfItems]
  | item :: rest => by
    rw [rawsOfItems, leavesOfItems, List.mem_append, List.mem_append, mem_raws item,
      mem_rawsOfItems rest]

theorem mem_rawsOfEntries {s : String} : ∀ entries : List (String × Value),
    s ∈ rawsOfEntries entries ↔ raw s ∈ leavesOfEntries entries
  | [] => by simp [rawsOfEntries, leavesOfEntries]
  | (_, value) :: rest => by
    rw [rawsOfEntries, leavesOfEntries, List.mem_append, List.mem_append, mem_raws value,
      mem_rawsOfEntries rest]

end

variable {P : String → Prop} {value : Value}

theorem within_iff_all : value.Within P ↔ value.All (IfRaw P) := by
  constructor
  · rintro h _ member s rfl
    exact h s ((mem_raws value).mpr member)
  · intro h s member
    exact h _ ((mem_raws value).mp member) s rfl

theorem within_of_raws (h : value.raws = []) : value.Within P := by
  intro s member
  rw [h] at member
  cases member

theorem ifRaw_of_isScalar (h : value.IsScalar) : value.IfRaw P := by
  rintro s rfl
  cases h

@[simp] theorem ifRaw_raw {s : String} : (raw s).IfRaw P ↔ P s :=
  ⟨fun h => h s rfl, fun h _ same => by cases same; exact h⟩

/-- What is printed with escaping is a safe text or has been escaped. -/
theorem output_of_all (h : value.All (IfRaw P)) (escaped : ∀ u, P (Text.escapeHtml u)) :
    P (value.output true) := by
  cases value with
  | raw s => exact ifRaw_raw.mp (all_raw.mp h)
  | _ => exact escaped _

/-- Only one filter marks a text as safe as it stands. -/
theorem raw_of_filter {f : Filter} {s : String} (h : value.All (IfRaw P))
    (escaped : ∀ u, P (Text.escapeHtml u)) (unmarked : f ≠ .raw)
    (got : f.apply value = .ok (raw s)) : P s := by
  cases f with
  | raw => exact absurd rfl unmarked
  | html =>
    cases got
    exact output_of_all h escaped
  | upper | lower => cases got
  | length =>
    change Filter.lengthOf value = .ok (raw s) at got
    cases value <;> cases got

end Value

/-- All safe texts among some variables have some property. -/
def Bindings.Within (P : String → Prop) (vars : Vars) : Prop := ∀ entry ∈ vars, entry.2.Within P

theorem Bindings.within_iff_all {P : String → Prop} {vars : Vars} :
    Within P vars ↔ All (Value.IfRaw P) vars :=
  forall₂_congr fun _ _ => Value.within_iff_all

end TemplateEngine
