import Mathlib.Data.Int.ModEq
import TemplateEngine.Value.Access
import TemplateEngine.Value.Arithmetic

/-!
# Integers wrap around

Every operation on two integers has a result or is refused as a division by zero. What
it gives is the exact result modulo 2 ^ 64, in the range of 64 bits; so it is the exact
result wherever that fits. An index into a list is a number of the same kind, and none
of them leads out of the list.
-/

namespace TemplateEngine.Value

/-- The number is the exact one, reduced into the range of 64 bits. -/
structure IsReduced (exact : Int) (r : Int64) : Prop where
  lower : -2 ^ 63 ≤ r.toInt
  upper : r.toInt < 2 ^ 63
  congruent : r.toInt ≡ exact [ZMOD 2 ^ 64]

section

variable {exact : Int} {r : Int64}

theorem isReduced_iff : IsReduced exact r ↔ r.toInt = exact.bmod (2 ^ 64) := by
  constructor
  · intro h
    have same : r.toInt.bmod (2 ^ 64) = exact.bmod (2 ^ 64) := by
      rw [← Int.emod_bmod r.toInt, ← Int.emod_bmod exact]
      exact congrArg (Int.bmod · (2 ^ 64)) h.congruent
    rw [← same]
    exact (Int.bmod_eq_of_le h.lower h.upper).symm
  · intro same
    refine ⟨r.le_toInt, r.toInt_lt, ?_⟩
    rw [same]
    exact Int.bmod_emod

/-- Only the reduced number is a reduced number. -/
theorem IsReduced.unique {r' : Int64} (h : IsReduced exact r) (h' : IsReduced exact r') : r = r' :=
  Int64.toInt_inj.mp ((isReduced_iff.mp h).trans (isReduced_iff.mp h').symm)

/-- A number that is congruent to a 64-bit one is reduced to it. -/
theorem isReduced_of_congruent (h : r.toInt ≡ exact [ZMOD 2 ^ 64]) : IsReduced exact r :=
  ⟨r.le_toInt, r.toInt_lt, h⟩

end

/-- What the operators give on two integers. -/
structure IntegerLaws (a b : Int64) : Prop where
  add : ∃ r, binary .add (int a) (int b) = .ok (int r) ∧ IsReduced (a.toInt + b.toInt) r
  sub : ∃ r, binary .sub (int a) (int b) = .ok (int r) ∧ IsReduced (a.toInt - b.toInt) r
  mul : ∃ r, binary .mul (int a) (int b) = .ok (int r) ∧ IsReduced (a.toInt * b.toInt) r
  negate : ∃ r, (int a).negate = .ok (int r) ∧ IsReduced (-a.toInt) r
  byZero : b = 0 → binary .div (int a) (int b) = .error .divisionByZero ∧
    binary .mod (int a) (int b) = .error .divisionByZero
  remainder : b ≠ 0 → ∃ r, binary .mod (int a) (int b) = .ok (int r) ∧
    |r.toInt| < |b.toInt| ∧ (r = 0 ∨ r.toInt.sign = a.toInt.sign) ∧ b.toInt ∣ a.toInt - r.toInt
  /-- A quotient is an integer iff nothing remains. -/
  divides : b ≠ 0 → ((∃ q, binary .div (int a) (int b) = .ok (int q)) ↔
    binary .mod (int a) (int b) = .ok (int 0))
  quotient : ∀ q, binary .div (int a) (int b) = .ok (int q) →
    binary .mul (int b) (int q) = .ok (int a) ∧ IsReduced (a.toInt / b.toInt) q
  /-- Else it is the quotient of the two numbers as floats. -/
  fraction : b ≠ 0 → binary .mod (int a) (int b) ≠ .ok (int 0) →
    binary .div (int a) (int b) = .ok (float ((Binary64.ofInt64 a).div (.ofInt64 b)))

/-- What an index gives in a list. -/
structure IndexLaws (items : List Value) (i : Int64) : Prop where
  front : ∀ k (inside : k < items.length), i.toInt = k →
    index (list items) (int i) = .ok items[k]
  back : ∀ k (inside : k < items.length), i.toInt = k - items.length →
    index (list items) (int i) = .ok items[k]
  outside : i.toInt < -items.length ∨ items.length ≤ i.toInt →
    index (list items) (int i) = .ok undef
  /-- The place that a negative index counts to is found without leaving the 64 bits. -/
  place : items.length < 2 ^ 63 → i.toInt < 0 →
    (i + Int64.ofNat items.length).toInt = i.toInt + items.length

section

variable (a b : Int64)

theorem binary_div_int (h : b ≠ 0) : binary .div (int a) (int b) =
    if a % b = 0 then .ok (int (a / b))
    else .ok (float ((Binary64.ofInt64 a).div (.ofInt64 b))) := by
  change divideInts a b = _
  rw [divideInts, if_neg h]

theorem binary_mod_int (h : b ≠ 0) : binary .mod (int a) (int b) = .ok (int (a % b)) := by
  change remainderInts a b = _
  rw [remainderInts, if_neg h]

variable {a b}

theorem toInt_ne_zero (h : b ≠ 0) : b.toInt ≠ 0 := by
  rwa [Ne, ← Int64.toInt_zero, Int64.toInt_inj]

theorem mod_eq_zero_iff : a % b = 0 ↔ b.toInt ∣ a.toInt := by
  rw [← Int64.toInt_inj, Int64.toInt_mod, Int64.toInt_zero, Int.dvd_iff_tmod_eq_zero]

/-- The remainder is smaller than the divisor and has the sign of the dividend. -/
theorem remainder_mod (h : b ≠ 0) : |(a % b).toInt| < |b.toInt| ∧
    (a % b = 0 ∨ (a % b).toInt.sign = a.toInt.sign) ∧ b.toInt ∣ a.toInt - (a % b).toInt := by
  rw [Int64.toInt_mod]
  refine ⟨?_, ?_, ?_⟩
  · rw [Int.abs_eq_natAbs, Int.abs_eq_natAbs, Int.natAbs_tmod]
    exact_mod_cast Nat.mod_lt _ (Int.natAbs_pos.mpr (toInt_ne_zero h))
  · rw [mod_eq_zero_iff, Int.sign_tmod]
    by_cases exact : b.toInt ∣ a.toInt
    · exact .inl exact
    · exact .inr (if_neg exact)
  · exact ⟨a.toInt.tdiv b.toInt, by rw [Int.tmod_def]; omega⟩

/-- An exact quotient is reduced too: that of the least number by minus one does not fit. -/
theorem isReduced_div (h : a % b = 0) : IsReduced (a.toInt / b.toInt) (a / b) := by
  rw [isReduced_iff, Int64.toInt_div]
  congr 1
  exact Int.tdiv_eq_ediv_of_dvd (mod_eq_zero_iff.mp h)

/-- Multiplying by the divisor gets back to the dividend, modulo 2 ^ 64. -/
theorem mul_div_of_mod (h : a % b = 0) : b * (a / b) = a := by
  have back : b.toInt * (a.toInt / b.toInt) = a.toInt :=
    Int.mul_ediv_cancel' (mod_eq_zero_iff.mp h)
  -- Both are reduced forms of one product.
  refine IsReduced.unique (isReduced_iff.mpr (Int64.toInt_mul b (a / b))) (isReduced_of_congruent ?_)
  calc a.toInt ≡ b.toInt * (a.toInt / b.toInt) [ZMOD 2 ^ 64] := by rw [back]
    _ ≡ b.toInt * (a / b).toInt [ZMOD 2 ^ 64] :=
      Int.ModEq.mul_left _ (isReduced_div h).congruent.symm

theorem integerLaws (a b : Int64) : IntegerLaws a b where
  add := ⟨a + b, rfl, isReduced_iff.mpr (Int64.toInt_add a b)⟩
  sub := ⟨a - b, rfl, isReduced_iff.mpr (Int64.toInt_sub a b)⟩
  mul := ⟨a * b, rfl, isReduced_iff.mpr (Int64.toInt_mul a b)⟩
  negate := ⟨-a, rfl, isReduced_iff.mpr (Int64.toInt_neg a)⟩
  byZero zero := by
    subst zero
    exact ⟨rfl, rfl⟩
  remainder h := ⟨a % b, binary_mod_int a b h, remainder_mod h⟩
  divides h := by
    rw [binary_div_int a b h, binary_mod_int a b h]
    by_cases exact : a % b = 0 <;> simp [exact]
  quotient q divided := by
    by_cases h : b = 0
    · subst h
      cases divided
    · rw [binary_div_int a b h] at divided
      split at divided
      case isTrue exact =>
        cases divided
        exact ⟨congrArg (fun r => Except.ok (int r)) (mul_div_of_mod exact), isReduced_div exact⟩
      case isFalse => cases divided
  fraction h inexact := by
    rw [binary_mod_int a b h] at inexact
    rw [binary_div_int a b h, if_neg]
    intro exact
    exact inexact (by rw [exact])

end

theorem indexLaws (items : List Value) (i : Int64) : IndexLaws items i where
  front k inside same := by
    have here : ¬ (k : Int) < 0 := by omega
    simp [index, itemAt, same, here, inside]
  back k inside same := by
    have negative : i.toInt < 0 := by omega
    have here : i.toInt + items.length = k := by omega
    have counted : ¬ (k : Int) < 0 := by omega
    simp [index, itemAt, negative, here, counted, inside]
  outside none := by
    by_cases negative : i.toInt < 0
    · have before : i.toInt + items.length < 0 := by omega
      simp [index, itemAt, negative, before]
    · have behind : items.length ≤ i.toInt.toNat := by omega
      rw [index, itemAt, if_neg negative, if_neg negative, List.getElem?_eq_none behind,
        Option.getD_none]
  place few negative := by
    have least := i.le_toInt
    have length : (Int64.ofNat items.length).toInt = items.length := Int64.toInt_ofNat_of_lt few
    rw [Int64.toInt_add, length]
    exact Int.bmod_eq_of_le (by omega) (by omega)

/-- Arithmetic on 64-bit integers and indices into lists is total. It is exact modulo 2 ^ 64, and
never reads outside of a list. -/
theorem integers_total : (∀ a b, IntegerLaws a b) ∧ ∀ items i, IndexLaws items i :=
  ⟨integerLaws, indexLaws⟩

example : binary .div (int Int64.minValue) (int (-1)) = .ok (int Int64.minValue) := rfl

end TemplateEngine.Value
