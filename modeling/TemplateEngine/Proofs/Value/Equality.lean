import Mathlib.Data.Set.CoeSort
import TemplateEngine.Proofs.Value.Leaves

/-!
# Equality and order of values without floats

Where no float is in the way, two values are loosely equal iff they differ in nothing but
which of their texts are safe. So loose equality is an equivalence, and what is written of a
value and whether it counts as true depend on its class alone. The order compares integers
with integers and texts with texts, and is a total order there that goes with the equality.
-/

namespace TemplateEngine

namespace Bindings

variable {α : Type} {b c : Bindings α}

/-- In two ordered maps with the same names the first names are the same. -/
theorem head_eq_of_names {key other : String} {x y : α} (hb : Ordered ((key, x) :: b))
    (hc : Ordered ((other, y) :: c))
    (names : ∀ name, (get? name ((key, x) :: b)).isSome = (get? name ((other, y) :: c)).isSome) :
    key = other := by
  have below {k l : String} {v w : α} {d e : Bindings α} (ordered : Ordered ((l, w) :: e))
      (same : (get? k ((k, v) :: d)).isSome = (get? k ((l, w) :: e)).isSome) : ¬k < l := by
    intro less
    have absent : get? k ((l, w) :: e) = none := by
      refine get?_of_forall_lt (List.forall_mem_cons.mpr ⟨less, fun entry member => ?_⟩)
      exact String.lt_trans less ((List.pairwise_cons.mp ordered).1 entry member)
    rw [absent] at same
    simp [get?] at same
  exact String.le_antisymm (String.not_lt.mp (below hb (names other).symm))
    (String.not_lt.mp (below hc (names key)))

end Bindings

namespace Value

/-- The value has no float at any depth. -/
def FloatFree (v : Value) : Prop := v.All fun leaf => leaf.kind ≠ .float

mutual

/-- The value with all safe text in it as plain text. -/
def unmarked : Value → Value
  | raw s => str s
  | list items => list (unmarkedItems items)
  | map entries => map (unmarkedEntries entries)
  | leaf => leaf

def unmarkedItems : List Value → List Value
  | [] => []
  | item :: rest => unmarked item :: unmarkedItems rest

def unmarkedEntries : List (String × Value) → List (String × Value)
  | [] => []
  | (key, value) :: rest => (key, unmarked value) :: unmarkedEntries rest

end

variable {a b c v w : Value}

@[simp] theorem floatFree_list {items : List Value} :
    (list items).FloatFree ↔ ∀ item ∈ items, item.FloatFree := all_list

@[simp] theorem floatFree_map {entries : Vars} :
    (map entries).FloatFree ↔ ∀ entry ∈ entries, entry.2.FloatFree := all_map

@[simp] theorem not_floatFree_float (x : Binary64) : ¬(float x).FloatFree :=
  fun h => h (float x) (List.mem_singleton_self _) rfl

mutual

/-- Loose equality forgets which texts are safe, and nothing else. -/
theorem looseEq_iff : ∀ {v w : Value}, v.FloatFree → w.FloatFree →
    (v.looseEq w = true ↔ v.unmarked = w.unmarked)
  | list xs, w, hv, hw => by
    cases w with
    | list ys =>
      rw [looseEq, unmarked, unmarked, list.injEq]
      exact looseEqItems_iff (floatFree_list.mp hv) (floatFree_list.mp hw)
    | _ => simp [looseEq, unmarked]
  | map m, w, hv, hw => by
    cases w with
    | map n =>
      rw [looseEq, unmarked, unmarked, map.injEq]
      exact looseEqEntries_iff (floatFree_map.mp hv) (floatFree_map.mp hw)
    | _ => simp [looseEq, unmarked]
  | float x, _, hv, _ => absurd hv (not_floatFree_float x)
  | int i, w, _, hw => by
    cases w with
    | float x => exact absurd hw (not_floatFree_float x)
    | _ => simp [looseEq, unmarked]
  | undef, w, _, _ | bool _, w, _, _ | str _, w, _, _ | raw _, w, _, _ | macroRef _, w, _, _ => by
    cases w <;> simp [looseEq, unmarked]

theorem looseEqItems_iff : ∀ {xs ys : List Value}, (∀ x ∈ xs, x.FloatFree) →
    (∀ y ∈ ys, y.FloatFree) → (looseEqItems xs ys = true ↔ unmarkedItems xs = unmarkedItems ys)
  | [], ys, _, _ => by cases ys <;> simp [looseEqItems, unmarkedItems]
  | x :: xs, [], _, _ => by simp [looseEqItems, unmarkedItems]
  | x :: xs, y :: ys, hx, hy => by
    obtain ⟨hx, hxs⟩ := List.forall_mem_cons.mp hx
    obtain ⟨hy, hys⟩ := List.forall_mem_cons.mp hy
    simp only [looseEqItems, unmarkedItems, Bool.and_eq_true, List.cons.injEq,
      looseEq_iff hx hy, looseEqItems_iff hxs hys]

theorem looseEqEntries_iff : ∀ {m n : Vars}, (∀ x ∈ m, x.2.FloatFree) →
    (∀ y ∈ n, y.2.FloatFree) →
    (looseEqEntries m n = true ↔ unmarkedEntries m = unmarkedEntries n)
  | [], n, _, _ => by cases n <;> simp [looseEqEntries, unmarkedEntries]
  | (_, _) :: _, [], _, _ => by simp [looseEqEntries, unmarkedEntries]
  | (k, x) :: m, (l, y) :: n, hx, hy => by
    obtain ⟨hx, hm⟩ := List.forall_mem_cons.mp hx
    obtain ⟨hy, hn⟩ := List.forall_mem_cons.mp hy
    simp only [looseEqEntries, unmarkedEntries, Bool.and_eq_true, beq_iff_eq, List.cons.injEq,
      Prod.mk.injEq, looseEq_iff hx hy, looseEqEntries_iff hm hn]

end

mutual

@[simp] theorem display_unmarked : ∀ v : Value, v.unmarked.display = v.display
  | list items => by simp [unmarked, display, displayItems_unmarked items]
  | map entries => by simp [unmarked, display, displayEntries_unmarked entries]
  | undef | bool _ | int _ | float _ | str _ | raw _ | macroRef _ => by simp [unmarked, display]

theorem displayItems_unmarked : ∀ items : List Value,
    displayItems (unmarkedItems items) = displayItems items
  | [] => rfl
  | item :: rest => by
    simp [unmarkedItems, displayItems, display_unmarked item, displayItems_unmarked rest]

theorem displayEntries_unmarked : ∀ entries : Vars,
    displayEntries (unmarkedEntries entries) = displayEntries entries
  | [] => rfl
  | (_, value) :: rest => by
    simp [unmarkedEntries, displayEntries, display_unmarked value, displayEntries_unmarked rest]

end

@[simp] theorem isTruthy_unmarked (v : Value) : v.unmarked.isTruthy = v.isTruthy := by
  cases v with
  | list items => cases items <;> simp [unmarked, unmarkedItems, isTruthy]
  | map entries => cases entries <;> simp [unmarked, unmarkedEntries, isTruthy]
  | _ => rfl

theorem looseEq_of_strictEq (h : a.strictEq b = true) : a.looseEq b = true := by
  unfold strictEq at h
  split at h
  · cases h
  · cases h
  · exact h

/-- A text is equal to the texts with the same characters, and to nothing else. -/
theorem looseEq_of_text (h : a.text?.isSome) : a.looseEq b = true ↔ a.text? = b.text? := by
  cases a <;> cases h <;> cases b <;> simp [looseEq, text?]

/-- Maps are equal iff they have the same names, with equal values. -/
theorem looseEq_map {m n : Vars} (hm : m.Ordered) (hn : n.Ordered) :
    (map m).looseEq (map n) = true ↔
      (∀ name, (m.get? name).isSome = (n.get? name).isSome) ∧
        ∀ name x y, m.get? name = some x → n.get? name = some y → x.looseEq y = true := by
  rw [looseEq]
  induction m generalizing n with
  | nil =>
    cases n with
    | nil => simp [looseEqEntries]
    | cons entry rest =>
      simp only [looseEqEntries, Bool.false_eq_true, false_iff, not_and]
      intro names
      simpa [Bindings.get?] using names entry.1
  | cons entry rest ih =>
    obtain ⟨key, x⟩ := entry
    cases n with
    | nil =>
      simp only [looseEqEntries, Bool.false_eq_true, false_iff, not_and]
      intro names
      simpa [Bindings.get?] using names key
    | cons entry' rest' =>
      obtain ⟨key', y⟩ := entry'
      obtain ⟨above, hm'⟩ := List.pairwise_cons.mp hm
      obtain ⟨above', hn'⟩ := List.pairwise_cons.mp hn
      simp only [looseEqEntries, Bool.and_eq_true, beq_iff_eq, ih hm' hn']
      constructor
      · rintro ⟨⟨rfl, first⟩, names, values⟩
        refine ⟨fun name => ?_, fun name v w hv hw => ?_⟩
        · by_cases same : key = name <;> simp [Bindings.get?, same, names]
        · by_cases same : key = name
          · simp only [Bindings.get?, same, if_true, Option.some.injEq] at hv hw
            exact hv ▸ hw ▸ first
          · simp only [Bindings.get?, same, if_false] at hv hw
            exact values name v w hv hw
      · rintro ⟨names, values⟩
        obtain rfl := Bindings.head_eq_of_names hm hn names
        refine ⟨⟨rfl, values key x y (by simp [Bindings.get?]) (by simp [Bindings.get?])⟩, ?_, ?_⟩
        · intro name
          by_cases same : key = name
          · subst same
            rw [Bindings.get?_of_forall_lt above, Bindings.get?_of_forall_lt above']
          · simpa [Bindings.get?, same] using names name
        · intro name v w hv hw
          -- The first name is in neither of the rests.
          have same : key ≠ name := by
            rintro rfl
            rw [Bindings.get?_of_forall_lt above] at hv
            cases hv
          exact values name v w (by simpa [Bindings.get?, same] using hv)
            (by simpa [Bindings.get?, same] using hw)

/-- What a value is ordered by, the number or the characters of a text. -/
def rank? : Value → Option (Int ⊕ String)
  | int i => some (.inl i.toInt)
  | str s | raw s => some (.inr s)
  | _ => none

/-- Numbers are ordered among themselves, and texts are. -/
def compareRanks? : Int ⊕ String → Int ⊕ String → Option Ordering
  | .inl i, .inl j => some (compare i j)
  | .inr s, .inr t => some (compare s t)
  | _, _ => none

theorem looseCompare?_eq (ha : a.FloatFree) (hb : b.FloatFree) :
    a.looseCompare? b = a.rank?.bind fun r => b.rank?.bind (compareRanks? r) := by
  cases a with
  | float x => exact absurd ha (not_floatFree_float x)
  | int i =>
    cases b with
    | float x => exact absurd hb (not_floatFree_float x)
    | _ => rfl
  | str | raw => cases b <;> rfl
  | _ => rfl

theorem looseEq_iff_rank? (hb : b.FloatFree) (h : a.rank?.isSome) :
    a.looseEq b = true ↔ a.rank? = b.rank? := by
  cases a <;> cases h
  case int.refl i =>
    cases b with
    | float x => exact absurd hb (not_floatFree_float x)
    | _ => simp [looseEq, rank?, Int64.toInt_inj]
  all_goals cases b <;> simp [looseEq, rank?]

theorem compareRanks?_swap (r r' : Int ⊕ String) :
    compareRanks? r' r = (compareRanks? r r').map Ordering.swap := by
  cases r <;> cases r' <;> simp [compareRanks?]
  · exact Std.OrientedCmp.eq_swap
  · exact Std.OrientedCmp.eq_swap

theorem compareRanks?_eq {r r' : Int ⊕ String} {o : Ordering} (h : compareRanks? r r' = some o) :
    o = .eq ↔ r = r' := by
  cases r <;> cases r' <;> cases h <;> simp [Std.LawfulEqCmp.compare_eq_iff_eq]

theorem compare_then {α : Type} [Ord α] [Std.TransOrd α] {x y z : α}
    (related : compare x y = compare y z ∨ compare x y = .eq ∨ compare y z = .eq) :
    compare x z = (compare x y).then (compare y z) := by
  rcases related with same | same | same
  · cases first : compare x y with
    | lt => exact Std.TransCmp.lt_trans first (same ▸ first)
    | eq => rw [Std.TransCmp.congr_left first]; rfl
    | gt => exact Std.TransCmp.gt_trans first (same ▸ first)
  · rw [Std.TransCmp.congr_left same, same]
    rfl
  · rw [← Std.TransCmp.congr_right same, same, Ordering.then_eq]

theorem compareRanks?_then {r₁ r₂ r₃ : Int ⊕ String} {o o' : Ordering}
    (h : compareRanks? r₁ r₂ = some o) (h' : compareRanks? r₂ r₃ = some o')
    (related : o = o' ∨ o = .eq ∨ o' = .eq) : compareRanks? r₁ r₃ = some (o.then o') := by
  cases r₁ <;> cases r₂ <;> cases h <;> cases r₃ <;> cases h'
  · exact congrArg some (compare_then related)
  · exact congrArg some (compare_then related)

/-- Ordered values are ordered by their ranks. -/
theorem exists_ranks {o : Ordering} (ha : a.FloatFree) (hb : b.FloatFree)
    (h : a.looseCompare? b = some o) :
    ∃ r r', a.rank? = some r ∧ b.rank? = some r' ∧ compareRanks? r r' = some o := by
  rw [looseCompare?_eq ha hb] at h
  obtain ⟨r, left, h⟩ := Option.bind_eq_some_iff.mp h
  obtain ⟨r', right, h⟩ := Option.bind_eq_some_iff.mp h
  exact ⟨r, r', left, right, h⟩

theorem looseCompare?_swap (ha : a.FloatFree) (hb : b.FloatFree) :
    b.looseCompare? a = (a.looseCompare? b).map Ordering.swap := by
  rw [looseCompare?_eq ha hb, looseCompare?_eq hb ha]
  cases a.rank? with
  | none => cases b.rank? <;> rfl
  | some r =>
    cases b.rank? with
    | none => rfl
    | some r' => exact compareRanks?_swap r r'

theorem looseCompare?_then {o o' : Ordering} (ha : a.FloatFree) (hb : b.FloatFree)
    (hc : c.FloatFree) (h : a.looseCompare? b = some o) (h' : b.looseCompare? c = some o')
    (related : o = o' ∨ o = .eq ∨ o' = .eq) : a.looseCompare? c = some (o.then o') := by
  obtain ⟨r₁, r₂, first, second, h⟩ := exists_ranks ha hb h
  obtain ⟨r₂', r₃, second', third, h'⟩ := exists_ranks hb hc h'
  obtain rfl : r₂ = r₂' := Option.some.inj (second.symm.trans second')
  rw [looseCompare?_eq ha hc, first, third]
  exact compareRanks?_then h h' related

theorem eq_iff_looseEq {o : Ordering} (ha : a.FloatFree) (hb : b.FloatFree)
    (h : a.looseCompare? b = some o) : o = .eq ↔ a.looseEq b = true := by
  obtain ⟨r, r', left, right, h⟩ := exists_ranks ha hb h
  rw [compareRanks?_eq h, looseEq_iff_rank? hb (by simp [left]), left, right, Option.some.injEq]

/-- What loose equality is on some values. -/
structure EqualityLaws (S : Set Value) : Prop where
  equivalence : Equivalence fun a b : S => a.1.looseEq b.1 = true
  /-- Safe text and plain text are one kind of text. -/
  texts : ∀ a ∈ S, ∀ b ∈ S, a.text?.isSome → (a.looseEq b = true ↔ a.text? = b.text?)
  /-- Maps have the same names, and equal values under each of them. -/
  maps : ∀ m n : Vars, map m ∈ S → map n ∈ S → m.Ordered → n.Ordered →
    ((map m).looseEq (map n) = true ↔
      (∀ name, (m.get? name).isSome = (n.get? name).isSome) ∧
        ∀ name x y, m.get? name = some x → n.get? name = some y → x.looseEq y = true)
  display : ∀ a ∈ S, ∀ b ∈ S, a.looseEq b = true → a.display = b.display
  isTruthy : ∀ a ∈ S, ∀ b ∈ S, a.looseEq b = true → a.isTruthy = b.isTruthy
  strict : ∀ a ∈ S, ∀ b ∈ S, a.strictEq b = true → a.looseEq b = true

/-- What the order is on some values, and how the operators go with it. -/
structure OrderLaws (S : Set Value) : Prop where
  defined : ∀ a ∈ S, ∀ b ∈ S, (a.looseCompare? b).isSome ↔
    (a.int?.isSome ∧ b.int?.isSome) ∨ (a.text?.isSome ∧ b.text?.isSome)
  swap : ∀ a ∈ S, ∀ b ∈ S, b.looseCompare? a = (a.looseCompare? b).map Ordering.swap
  /-- Two steps in one direction, or one of them between equals, are such a step. -/
  trans : ∀ a ∈ S, ∀ b ∈ S, ∀ c ∈ S, ∀ o o', a.looseCompare? b = some o →
    b.looseCompare? c = some o' → o = o' ∨ o = .eq ∨ o' = .eq →
    a.looseCompare? c = some (o.then o')
  eq_iff : ∀ a ∈ S, ∀ b ∈ S, ∀ o, a.looseCompare? b = some o → (o = .eq ↔ a.looseEq b = true)
  /-- Where two values are ordered, all operators have an answer, `<=` and `>=` are what their
  signs say, and exactly one of `<`, `==`, `>` holds. -/
  operators : ∀ a ∈ S, ∀ b ∈ S, (a.looseCompare? b).isSome → ∃ less equal greater : Bool,
    binary .lt a b = .ok (bool less) ∧ binary .eq a b = .ok (bool equal) ∧
    binary .gt a b = .ok (bool greater) ∧ binary .ne a b = .ok (bool !equal) ∧
    binary .le a b = .ok (bool (less || equal)) ∧
    binary .ge a b = .ok (bool (greater || equal)) ∧
    [less, equal, greater].count true = 1

theorem equalityLaws_floatFree : EqualityLaws {v | v.FloatFree} where
  equivalence := by
    refine ⟨fun a => ?_, fun {a b} h => ?_, fun {a b c} h h' => ?_⟩
    · exact (looseEq_iff a.2 a.2).mpr rfl
    · exact (looseEq_iff b.2 a.2).mpr ((looseEq_iff a.2 b.2).mp h).symm
    · exact (looseEq_iff a.2 c.2).mpr
        (((looseEq_iff a.2 b.2).mp h).trans ((looseEq_iff b.2 c.2).mp h'))
  texts _ _ _ _ text := looseEq_of_text text
  maps _ _ _ _ hm hn := looseEq_map hm hn
  display a ha b hb h := by
    rw [← display_unmarked a, (looseEq_iff ha hb).mp h, display_unmarked]
  isTruthy a ha b hb h := by
    rw [← isTruthy_unmarked a, (looseEq_iff ha hb).mp h, isTruthy_unmarked]
  strict _ _ _ _ h := looseEq_of_strictEq h

theorem orderLaws_floatFree : OrderLaws {v | v.FloatFree} where
  defined a ha b hb := by
    rw [looseCompare?_eq ha hb]
    cases a <;> cases b <;> simp [rank?, compareRanks?, int?, text?]
  swap _ ha _ hb := looseCompare?_swap ha hb
  trans _ ha _ hb _ hc _ _ h h' related := looseCompare?_then ha hb hc h h' related
  eq_iff _ ha _ hb _ h := eq_iff_looseEq ha hb h
  operators a ha b hb ordered := by
    obtain ⟨o, h⟩ := Option.isSome_iff_exists.mp ordered
    have equal : a.looseEq b = (o == .eq) := by
      rw [Bool.eq_iff_iff, ← eq_iff_looseEq ha hb h, beq_iff_eq]
    refine ⟨o == .lt, o == .eq, o == .gt, ?_⟩
    cases o <;> simp [binary, Value.ordered, h, equal]

/-- On values without floats loose equality is an equivalence that text and truth respect, and
the order of numbers and of texts is a total order that goes with it. -/
theorem equality_and_order :
    EqualityLaws {v | v.FloatFree} ∧ OrderLaws {v | v.FloatFree} :=
  ⟨equalityLaws_floatFree, orderLaws_floatFree⟩

end Value
end TemplateEngine
