import TemplateEngine.Machine.Level

/-!
# The leaves of values

The leaves of a value are the values at any depth of it that are no list and no map.
Operations on values pass leaves on and make scalars, so what holds of all leaves of
their operands and of scalars holds of all leaves of their results.
-/

namespace TemplateEngine

namespace Value

mutual

/-- The values in a value, at any depth, that are no list and no map. -/
def leaves : Value → List Value
  | list items => leavesOfItems items
  | map entries => leavesOfEntries entries
  | leaf => [leaf]

def leavesOfItems : List Value → List Value
  | [] => []
  | item :: rest => leaves item ++ leavesOfItems rest

def leavesOfEntries : List (String × Value) → List Value
  | [] => []
  | (_, value) :: rest => leaves value ++ leavesOfEntries rest

end

/-- All leaves of a value have a property. -/
def All (P : Value → Prop) (value : Value) : Prop := ∀ leaf ∈ value.leaves, P leaf

/-- The value is no list, no map, no macro and no safe text. -/
def IsScalar : Value → Prop
  | undef | bool _ | int _ | float _ | str _ => True
  | raw _ | list _ | map _ | macroRef _ => False

variable {P : Value → Prop} {value container key left right : Value}

@[simp] theorem all_list {items : List Value} :
    (list items).All P ↔ ∀ item ∈ items, item.All P := by
  unfold All
  rw [leaves]
  induction items with
  | nil => simp [leavesOfItems]
  | cons item rest ih =>
    simp only [leavesOfItems, List.mem_append, List.forall_mem_cons, ← ih]
    grind

@[simp] theorem all_map {entries : List (String × Value)} :
    (map entries).All P ↔ ∀ entry ∈ entries, entry.2.All P := by
  unfold All
  rw [leaves]
  induction entries with
  | nil => simp [leavesOfEntries]
  | cons entry rest ih =>
    simp only [leavesOfEntries, List.mem_append, List.forall_mem_cons, ← ih]
    grind

@[simp] theorem all_raw {s : String} : (raw s).All P ↔ P (raw s) := by simp [All, leaves]

@[simp] theorem all_macroRef {ref : MacroRef} : (macroRef ref).All P ↔ P (macroRef ref) := by
  simp [All, leaves]

/-- Two properties of all leaves, and what follows from both. -/
theorem All.of_both {Q S : Value → Prop} (hp : value.All P) (hq : value.All Q)
    (both : ∀ v, P v → Q v → S v) : value.All S :=
  fun leaf member => both leaf (hp leaf member) (hq leaf member)

theorem all_of_isScalar (scalars : ∀ v, v.IsScalar → P v) (h : value.IsScalar) : value.All P := by
  cases value with
  | undef | bool | int | float | str =>
    intro leaf member
    obtain rfl := List.mem_singleton.mp member
    exact scalars _ h
  | raw | list | map | macroRef => cases h

theorem isScalar_toValue (l : Literal) : l.toValue.IsScalar := by
  cases l <;> trivial

theorem isScalar_arithmetic {op : BinaryOp} {onInts : Int64 → Int64 → Except TypeFault Value}
    {onFloats : Binary64 → Binary64 → Except TypeFault Value}
    (ints : ∀ a b v, onInts a b = .ok v → v.IsScalar)
    (floats : ∀ x y v, onFloats x y = .ok v → v.IsScalar)
    (got : arithmetic op onInts onFloats left right = .ok value) : value.IsScalar := by
  unfold arithmetic at got
  split at got
  · exact ints _ _ _ got
  · split at got
    · exact floats _ _ _ got
    · cases got

theorem isScalar_ordered {op : BinaryOp} {test : Ordering → Bool}
    (got : ordered op test left right = .ok value) : value.IsScalar := by
  unfold ordered at got
  split at got <;> cases got
  trivial

/-- Binary operators make scalars. -/
theorem isScalar_binary {op : BinaryOp} (got : binary op left right = .ok value) :
    value.IsScalar := by
  cases op with
  | add | sub | mul =>
    exact isScalar_arithmetic (fun a b v h => by cases h; trivial) (fun x y v h => by cases h; trivial)
      got
  | div =>
    refine isScalar_arithmetic ?_ ?_ got
    · intro a b v h
      unfold divideInts at h
      split at h
      · cases h
      · split at h <;> cases h <;> trivial
    · intro x y v h
      unfold divideFloats at h
      split at h <;> cases h
      trivial
  | mod =>
    refine isScalar_arithmetic ?_ (fun x y v h => by cases h) got
    intro a b v h
    unfold remainderInts at h
    split at h <;> cases h
    trivial
  | concat | eq | ne =>
    cases got
    trivial
  | lt | le | gt | ge => exact isScalar_ordered got

theorem isScalar_negate (got : value.negate = .ok left) : left.IsScalar := by
  cases value <;> cases got <;> trivial

/-- A filter makes a scalar or a safe text. -/
theorem isScalar_or_raw_of_filter {f : Filter} (got : f.apply value = .ok left) :
    left.IsScalar ∨ ∃ s, left = raw s := by
  cases f with
  | raw | html =>
    cases got
    exact .inr ⟨_, rfl⟩
  | upper | lower =>
    cases got
    exact .inl trivial
  | length =>
    change Filter.lengthOf value = .ok left at got
    left
    cases value <;> cases got <;> trivial

section Access

variable (scalars : ∀ v, v.IsScalar → P v)
include scalars

theorem all_undef : undef.All P := all_of_isScalar scalars trivial

theorem all_getD {items : List Value} (h : ∀ item ∈ items, item.All P) (i : Nat) :
    (items[i]?.getD undef).All P := by
  cases found : items[i]? with
  | none => exact all_undef scalars
  | some item => exact h item (List.mem_of_getElem? found)

omit scalars in
theorem all_get? {entries : List (String × Value)} (h : ∀ entry ∈ entries, entry.2.All P)
    {name : String} (found : Bindings.get? name entries = some value) : value.All P := by
  induction entries with
  | nil => cases found
  | cons entry rest ih =>
    obtain ⟨known, later⟩ := List.forall_mem_cons.mp h
    rw [Bindings.get?] at found
    split at found
    · cases found
      exact known
    · exact ih later found

theorem all_get?_getD {entries : List (String × Value)} (h : ∀ entry ∈ entries, entry.2.All P)
    (name : String) : ((Bindings.get? name entries).getD undef).All P := by
  cases found : Bindings.get? name entries with
  | none => exact all_undef scalars
  | some value => exact all_get? h found

theorem All.field {name : String} (h : container.All P) (got : container.field name = .ok value) :
    value.All P := by
  unfold Value.field at got
  split at got
  case h_1 entries =>
    cases got
    exact all_get?_getD scalars (all_map.mp h) name
  case h_2 =>
    cases got
    exact all_undef scalars
  case h_3 items =>
    split at got
    · cases got
      exact all_getD scalars (all_list.mp h) _
    · cases got
  case h_4 => cases got

theorem all_itemAt {items : List Value} (h : ∀ item ∈ items, item.All P) (i : Int64) :
    (itemAt items i).All P := by
  unfold itemAt
  dsimp only
  generalize (if i.toInt < 0 then i.toInt + (items.length : Int) else i.toInt) = place
  split
  · exact all_undef scalars
  · exact all_getD scalars h _

theorem All.index (h : container.All P) (got : container.index key = .ok value) :
    value.All P := by
  unfold Value.index at got
  split at got
  case h_1 =>
    cases got
    exact all_undef scalars
  case h_2 entries _ =>
    cases got
    exact all_get?_getD scalars (all_map.mp h) _
  case h_3 items i =>
    cases got
    exact all_itemAt scalars (all_list.mp h) i
  case h_4 => cases got
  case h_5 => cases got

theorem all_loopItems {items : List Value} (h : value.All P)
    (found : Level.loopItems value = .ok items) : ∀ item ∈ items, item.All P := by
  unfold Level.loopItems at found
  split at found
  case h_1 =>
    cases found
    exact all_list.mp h
  case h_2 =>
    cases found
    intro item member
    obtain ⟨entry, -, rfl⟩ := List.mem_map.mp member
    exact all_of_isScalar scalars trivial
  case h_3 =>
    cases found
    exact nofun
  case h_4 => cases found

end Access
end Value

/-- All leaves of some variables have a property. -/
def Bindings.All (P : Value → Prop) (vars : Vars) : Prop := ∀ entry ∈ vars, entry.2.All P

namespace Bindings

variable {P : Value → Prop} {vars : Vars}

theorem All.insert (h : All P vars) (name : String) {value : Value} (hv : value.All P) :
    All P (vars.insert name value) := by
  intro entry member
  rcases mem_insert member with rfl | member
  · exact hv
  · exact h entry member

theorem All.insertAll (h : All P vars) {entries : List (String × Value)} (he : All P entries) :
    All P (vars.insertAll entries) := by
  induction entries generalizing vars with
  | nil => exact h
  | cons entry rest ih =>
    obtain ⟨first, later⟩ := List.forall_mem_cons.mp he
    exact ih (h.insert entry.1 first) later

theorem all_ofList {entries : List (String × Value)} (he : All P entries) :
    All P (ofList entries) :=
  All.insertAll nofun he

end Bindings

namespace Level

variable {P : Value → Prop}

theorem all_pairs : ∀ {items : List Value}, (∀ item ∈ items, item.All P) →
    Bindings.All P (pairs items)
  | [], _ => nofun
  | [_], _ => nofun
  | key :: value :: rest, h => by
    obtain ⟨-, h⟩ := List.forall_mem_cons.mp h
    obtain ⟨first, later⟩ := List.forall_mem_cons.mp h
    exact List.forall_mem_cons.mpr ⟨first, all_pairs later⟩

theorem all_loopInfo (scalars : ∀ v, v.IsScalar → P v) (place size : Nat) :
    (loopInfo place size).All P := by
  refine Value.all_map.mpr (Bindings.all_ofList ?_)
  simp only [Bindings.All, List.forall_mem_cons]
  refine ⟨?_, ?_, ?_, ?_, ?_, nofun⟩ <;> exact Value.all_of_isScalar scalars trivial

end Level
end TemplateEngine
