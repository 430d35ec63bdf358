import Mathlib.Data.List.Forall2
import TemplateEngine.Machine.Level
import TemplateEngine.Proofs.Except

/-!
# Values that differ in the identities of programs

Two values are alike if they differ at most in the programs that their macros
belong to, and those are linked. Everything but a comparison of macros gives
alike results for alike values, or the same fault, and writes the same text.
-/

namespace TemplateEngine

/-- Lists that are related item by item are so at each place. -/
theorem rel_getElem? {α β : Type} {r : α → β → Prop} {xs : List α} {ys : List β}
    (h : List.Forall₂ r xs ys) (i : Nat) : Option.Rel r xs[i]? ys[i]? := by
  induction h generalizing i with
  | nil => exact .none
  | cons first _ ih =>
    cases i with
    | zero => exact .some first
    | succ i => simpa using ih i

namespace Value

/-- The value has no values inside of it and is no macro. -/
def IsPlain : Value → Prop
  | list _ | map _ | macroRef _ => False
  | _ => True

end Value

mutual

/-- The values are the same but for linked programs of their macros. -/
inductive Value.Alike (R : Nat → Nat → Prop) : Value → Value → Prop
  | plain {v} : v.IsPlain → Value.Alike R v v
  | list {xs ys} : List.Forall₂ (Value.Alike R) xs ys → Value.Alike R (.list xs) (.list ys)
  | map {b c} : Bindings.Alike R b c → Value.Alike R (.map b) (.map c)
  | macroRef {i j index name closure} : R i j →
      Value.Alike R (.macroRef ⟨i, index, name, closure⟩) (.macroRef ⟨j, index, name, closure⟩)

/-- The bindings are of the same names, to alike values. -/
inductive Bindings.Alike (R : Nat → Nat → Prop) : Vars → Vars → Prop
  | nil : Bindings.Alike R [] []
  | cons {name v w b c} : Value.Alike R v w → Bindings.Alike R b c →
      Bindings.Alike R ((name, v) :: b) ((name, w) :: c)

end

theorem Bindings.Alike.length_eq {R : Nat → Nat → Prop} : ∀ {b c : Vars}, Bindings.Alike R b c →
    b.length = c.length
  | _, _, .nil => rfl
  | _, _, .cons _ rest => congrArg (· + 1) rest.length_eq

theorem Bindings.Alike.insert {R : Nat → Nat → Prop} (name : String) {v w : Value}
    (first : v.Alike R w) {b c : Vars} (h : Bindings.Alike R b c) :
    Bindings.Alike R (b.insert name v) (c.insert name w) := by
  induction b generalizing c with
  | nil =>
    cases h
    exact .cons first .nil
  | cons entry rest ih =>
    cases h with
    | cons old others =>
      rw [Bindings.insert, Bindings.insert]
      split
      · exact .cons first (.cons old others)
      · split
        · exact .cons first others
        · exact .cons old (ih others)

theorem Bindings.Alike.insertAll {R : Nat → Nat → Prop} : ∀ {entries entries' b c : Vars},
    Bindings.Alike R b c → Bindings.Alike R entries entries' →
    Bindings.Alike R (b.insertAll entries) (c.insertAll entries')
  | _, _, _, _, h, .nil => h
  | _, _, _, _, h, .cons first rest => (h.insert _ first).insertAll rest

namespace Value

variable {R S : Nat → Nat → Prop} {v w container container' key key' left left' right right' : Value}
  {xs ys : List Value} {entries entries' : Vars}

theorem Alike.kind (h : v.Alike R w) : v.kind = w.kind := by
  cases h <;> rfl

theorem Alike.isTruthy (h : v.Alike R w) : v.isTruthy = w.isTruthy := by
  cases h with
  | plain _ => rfl
  | list items => cases items <;> rfl
  | map entries => cases entries <;> rfl
  | macroRef _ => rfl

mutual

theorem Alike.display : ∀ {v w : Value}, v.Alike R w → v.display = w.display
  | .list _, _, .list items => by rw [Value.display, Value.display, displayItems_alike items]
  | .map _, _, .map entries => by rw [Value.display, Value.display, displayEntries_alike entries]
  | .macroRef _, _, .macroRef _ => rfl
  | _, _, .plain _ => rfl

theorem displayItems_alike : ∀ {xs ys : List Value}, List.Forall₂ (Alike R) xs ys →
    displayItems xs = displayItems ys
  | [], _, .nil => rfl
  | _ :: _, _, .cons first rest => by
    rw [displayItems, displayItems, first.display, displayItems_alike rest]

theorem displayEntries_alike : ∀ {b c : Vars}, Bindings.Alike R b c →
    displayEntries b = displayEntries c
  | [], _, .nil => rfl
  | _ :: _, _, .cons first rest => by
    rw [displayEntries, displayEntries, first.display, displayEntries_alike rest]

end

theorem Alike.output (h : v.Alike R w) (escape : Bool) : v.output escape = w.output escape := by
  cases h with
  | plain _ => rfl
  | list items => simp only [Value.output, (Alike.list items).display]
  | map entries => simp only [Value.output, (Alike.map entries).display]
  | macroRef h => rfl

theorem alike_plain (h : v.IsPlain) : v.Alike R v := .plain h

theorem alike_toValue (l : Literal) : l.toValue.Alike R l.toValue := by
  apply alike_plain
  cases l <;> trivial

theorem alike_getD {found found' : Option Value} (h : Option.Rel (Alike R) found found') :
    (found.getD undef).Alike R (found'.getD undef) := by
  cases h with
  | none => exact alike_plain trivial
  | some alike => exact alike

theorem alike_get? {b c : Vars} (h : Bindings.Alike R b c) (name : String) :
    Option.Rel (Alike R) (Bindings.get? name b) (Bindings.get? name c) := by
  cases h with
  | nil => exact .none
  | cons first rest =>
    rw [Bindings.get?, Bindings.get?]
    split
    · exact .some first
    · exact alike_get? rest name
termination_by b.length
decreasing_by simp

theorem Alike.field (h : container.Alike R container') (name : String) :
    ExceptRel (Alike R) (container.field name) (container'.field name) := by
  cases h with
  | plain plain =>
    cases container with
    | undef => exact .ok (alike_plain trivial)
    | list _ | map _ | macroRef _ => exact plain.elim
    | _ => exact .error _
  | list items =>
    unfold Value.field
    dsimp only
    split
    · exact .ok (alike_getD (rel_getElem? items _))
    · exact .error _
  | map entries => exact .ok (alike_getD (alike_get? entries name))
  | macroRef _ => exact .error _

theorem alike_itemAt (h : List.Forall₂ (Alike R) xs ys) (i : Int64) :
    (itemAt xs i).Alike R (itemAt ys i) := by
  unfold itemAt
  rw [h.length_eq]
  dsimp only
  generalize (if i.toInt < 0 then i.toInt + (ys.length : Int) else i.toInt) = place
  split
  · exact alike_plain trivial
  · exact alike_getD (rel_getElem? h _)

theorem Alike.index (h : container.Alike R container') (hk : key.Alike R key') :
    ExceptRel (Alike R) (container.index key) (container'.index key') := by
  cases h with
  | plain plain =>
    cases container with
    | undef => exact .ok (alike_plain trivial)
    | list _ | map _ | macroRef _ => exact plain.elim
    | _ => exact .error _
  | list items =>
    cases hk with
    | plain plain =>
      cases key with
      | int i => exact .ok (alike_itemAt items i)
      | list _ | map _ | macroRef _ => exact plain.elim
      | _ => exact .error _
    | list _ | map _ | macroRef _ => exact .error _
  | map entries =>
    unfold Value.index
    rw [hk.display]
    exact .ok (alike_getD (alike_get? entries _))
  | macroRef _ => exact .error _

theorem arithmetic_of_none {op : BinaryOp} {onInts : Int64 → Int64 → Except TypeFault Value}
    {onFloats : Binary64 → Binary64 → Except TypeFault Value}
    (h : left.number? = none ∨ right.number? = none) :
    arithmetic op onInts onFloats left right
      = .error (.unsupportedOperands op left.kind right.kind) := by
  unfold arithmetic
  split
  · simp [Value.number?] at h
  · split
    case h_1 first second => simp [first, second] at h
    case h_2 => rfl

theorem alike_arithmetic (op : BinaryOp) {onInts : Int64 → Int64 → Except TypeFault Value}
    {onFloats : Binary64 → Binary64 → Except TypeFault Value}
    (ints : ∀ a b, ExceptRel (Alike R) (onInts a b) (onInts a b))
    (floats : ∀ x y, ExceptRel (Alike R) (onFloats x y) (onFloats x y))
    (hl : left.Alike R left') (hr : right.Alike R right') :
    ExceptRel (Alike R) (arithmetic op onInts onFloats left right)
      (arithmetic op onInts onFloats left' right') := by
  cases hl with
  | plain _ =>
    cases hr with
    | plain _ =>
      unfold arithmetic
      split
      · exact ints _ _
      · split
        · exact floats _ _
        · exact .error _
    | list _ | map _ | macroRef _ =>
      rw [arithmetic_of_none (.inr rfl), arithmetic_of_none (.inr rfl)]
      exact .error _
  | list _ | map _ | macroRef _ =>
    rw [arithmetic_of_none (.inl rfl), arithmetic_of_none (.inl rfl), hr.kind]
    exact .error _

theorem Alike.looseCompare? (hl : left.Alike R left') (hr : right.Alike R right') :
    left.looseCompare? right = left'.looseCompare? right' := by
  cases hl with
  | plain _ =>
    cases hr with
    | plain _ => rfl
    | list _ | map _ | macroRef _ => cases left <;> rfl
  | list _ | map _ | macroRef _ => rfl

theorem alike_ordered (op : BinaryOp) (test : Ordering → Bool) (hl : left.Alike R left')
    (hr : right.Alike R right') :
    ExceptRel (Alike R) (ordered op test left right) (ordered op test left' right') := by
  unfold ordered
  rw [hl.looseCompare? hr, hl.kind, hr.kind]
  split
  · exact .ok (alike_plain trivial)
  · exact .error _

/-- Alike operands give the same, if comparing them does. -/
theorem Alike.binary (hl : left.Alike R left') (hr : right.Alike R right') {op : BinaryOp}
    (same : op = .eq ∨ op = .ne → left.looseEq right = left'.looseEq right') :
    ExceptRel (Alike R) (left.binary op right) (left'.binary op right') := by
  cases op with
  | add | sub | mul =>
    apply alike_arithmetic _ _ _ hl hr
    · intro a b
      exact .ok (alike_plain trivial)
    · intro x y
      exact .ok (alike_plain trivial)
  | div =>
    apply alike_arithmetic _ _ _ hl hr
    · intro a b
      unfold divideInts
      split
      · exact .error _
      · split <;> exact .ok (alike_plain trivial)
    · intro x y
      unfold divideFloats
      split
      · exact .error _
      · exact .ok (alike_plain trivial)
  | mod =>
    apply alike_arithmetic _ _ _ hl hr
    · intro a b
      unfold remainderInts
      split
      · exact .error _
      · exact .ok (alike_plain trivial)
    · intro x y
      exact .error _
  | concat =>
    unfold Value.binary
    rw [hl.display, hr.display]
    exact .ok (alike_plain trivial)
  | eq =>
    unfold Value.binary
    rw [same (.inl rfl)]
    exact .ok (alike_plain trivial)
  | ne =>
    unfold Value.binary
    rw [same (.inr rfl)]
    exact .ok (alike_plain trivial)
  | lt | le | gt | ge => exact alike_ordered _ _ hl hr

theorem Alike.negate (h : v.Alike R w) : ExceptRel (Alike R) v.negate w.negate := by
  cases h with
  | plain plain =>
    cases v with
    | int _ | float _ => exact .ok (alike_plain trivial)
    | _ => exact .error _
  | list _ | map _ | macroRef _ => exact .error _

theorem Alike.filter (h : v.Alike R w) (f : Filter) :
    ExceptRel (Alike R) (f.apply v) (f.apply w) := by
  cases f with
  | raw | upper | lower =>
    unfold Filter.apply
    rw [h.display]
    exact .ok (alike_plain trivial)
  | html =>
    unfold Filter.apply
    rw [h.output]
    exact .ok (alike_plain trivial)
  | length =>
    cases h with
    | plain plain =>
      cases v with
      | list _ | map _ | macroRef _ => exact plain.elim
      | undef | str _ | raw _ => exact .ok (alike_plain trivial)
      | _ => exact .error _
    | list items =>
      unfold Filter.apply Filter.lengthOf
      dsimp only
      rw [items.length_eq]
      exact .ok (alike_plain trivial)
    | map entries =>
      unfold Filter.apply Filter.lengthOf
      dsimp only
      rw [entries.length_eq]
      exact .ok (alike_plain trivial)
    | macroRef _ => exact .error _

mutual

theorem Alike.mono (sub : ∀ i j, R i j → S i j) : ∀ {v w : Value}, v.Alike R w → v.Alike S w
  | .list _, _, .list items => .list (items_mono sub items)
  | .map _, _, .map entries => .map (entries_mono sub entries)
  | .macroRef _, _, .macroRef linked => .macroRef (sub _ _ linked)
  | _, _, .plain plain => .plain plain

theorem items_mono (sub : ∀ i j, R i j → S i j) : ∀ {xs ys : List Value},
    List.Forall₂ (Alike R) xs ys → List.Forall₂ (Alike S) xs ys
  | [], _, .nil => .nil
  | _ :: _, _, .cons first rest => .cons (first.mono sub) (items_mono sub rest)

theorem entries_mono (sub : ∀ i j, R i j → S i j) : ∀ {b c : Vars},
    Bindings.Alike R b c → Bindings.Alike S b c
  | [], _, .nil => .nil
  | _ :: _, _, .cons first rest => .cons (first.mono sub) (entries_mono sub rest)

end

mutual

/-- The programs that macros in the value belong to. -/
def programs : Value → List Nat
  | list items => programsOfItems items
  | map entries => programsOfEntries entries
  | macroRef ref => [ref.program]
  | _ => []

def programsOfItems : List Value → List Nat
  | [] => []
  | item :: rest => programs item ++ programsOfItems rest

def programsOfEntries : List (String × Value) → List Nat
  | [] => []
  | (_, value) :: rest => programs value ++ programsOfEntries rest

end

mutual

/-- A value is like itself if each program of its macros is linked to itself. -/
theorem alike_self : ∀ v : Value, (∀ i ∈ v.programs, R i i) → v.Alike R v
  | .list items, linked => .list (items_alike_self items (by simpa [programs] using linked))
  | .map entries, linked => .map (entries_alike_self entries (by simpa [programs] using linked))
  | .macroRef ref, linked => .macroRef (linked ref.program (by simp [programs]))
  | .undef, _ | .bool _, _ | .int _, _ | .float _, _ | .str _, _ | .raw _, _ => .plain trivial

theorem items_alike_self : ∀ items : List Value, (∀ i ∈ programsOfItems items, R i i) →
    List.Forall₂ (Alike R) items items
  | [], _ => .nil
  | item :: rest, linked => by
    simp only [programsOfItems, List.mem_append] at linked
    constructor
    · exact alike_self item fun i known => linked i (.inl known)
    · exact items_alike_self rest fun i known => linked i (.inr known)

theorem entries_alike_self : ∀ entries : Vars, (∀ i ∈ programsOfEntries entries, R i i) →
    Bindings.Alike R entries entries
  | [], _ => .nil
  | (_, value) :: rest, linked => by
    simp only [programsOfEntries, List.mem_append] at linked
    constructor
    · exact alike_self value fun i known => linked i (.inl known)
    · exact entries_alike_self rest fun i known => linked i (.inr known)

end

theorem isPlain_of_looseEq (h : left.looseEq right = true) : left.IsPlain ↔ right.IsPlain := by
  cases left <;> cases right <;> trivial

mutual

/-- Equal values stay equal if each program is linked to one only. -/
theorem Alike.looseEq (functional : ∀ i j j', R i j → R i j' → j = j') :
    ∀ {left left' right right' : Value}, left.Alike R left' → right.Alike R right' →
    left.looseEq right = true → left'.looseEq right' = true
  | _, _, _, _, .plain _, .plain _, equal => equal
  | _, _, _, _, .list xs, .list ys, equal => by
    rw [Value.looseEq] at equal ⊢
    exact items_looseEq functional xs ys equal
  | _, _, _, _, .map b, .map c, equal => by
    rw [Value.looseEq] at equal ⊢
    exact entries_looseEq functional b c equal
  | _, _, _, _, .macroRef linked, .macroRef linked', equal => by
    simp only [Value.looseEq, beq_iff_eq, MacroRef.mk.injEq] at equal ⊢
    obtain ⟨rfl, rest⟩ := equal
    exact ⟨functional _ _ _ linked linked', rest⟩
  | _, _, _, _, .plain plain, .list _, equal | _, _, _, _, .plain plain, .map _, equal
  | _, _, _, _, .plain plain, .macroRef _, equal => ((isPlain_of_looseEq equal).mp plain).elim
  | _, _, _, _, .list _, .plain plain, equal | _, _, _, _, .map _, .plain plain, equal
  | _, _, _, _, .macroRef _, .plain plain, equal => ((isPlain_of_looseEq equal).mpr plain).elim
  | _, _, _, _, .list _, .map _, equal | _, _, _, _, .list _, .macroRef _, equal
  | _, _, _, _, .map _, .list _, equal | _, _, _, _, .map _, .macroRef _, equal
  | _, _, _, _, .macroRef _, .list _, equal | _, _, _, _, .macroRef _, .map _, equal => by cases equal

theorem items_looseEq (functional : ∀ i j j', R i j → R i j' → j = j') :
    ∀ {xs xs' ys ys' : List Value}, List.Forall₂ (Alike R) xs xs' → List.Forall₂ (Alike R) ys ys' →
    looseEqItems xs ys = true → looseEqItems xs' ys' = true
  | _, _, _, _, .nil, .nil, _ => rfl
  | _, _, _, _, .cons first rest, .cons first' rest', equal => by
    rw [looseEqItems, Bool.and_eq_true] at equal ⊢
    constructor
    · exact first.looseEq functional first' equal.1
    · exact items_looseEq functional rest rest' equal.2
  | _, _, _, _, .nil, .cons _ _, equal | _, _, _, _, .cons _ _, .nil, equal => by cases equal

theorem entries_looseEq (functional : ∀ i j j', R i j → R i j' → j = j') :
    ∀ {b b' c c' : Vars}, Bindings.Alike R b b' → Bindings.Alike R c c' →
    looseEqEntries b c = true → looseEqEntries b' c' = true
  | _, _, _, _, .nil, .nil, _ => rfl
  | _, _, _, _, .cons first rest, .cons first' rest', equal => by
    simp only [looseEqEntries, Bool.and_eq_true] at equal ⊢
    refine ⟨⟨equal.1.1, ?_⟩, ?_⟩
    · exact first.looseEq functional first' equal.1.2
    · exact entries_looseEq functional rest rest' equal.2
  | _, _, _, _, .nil, .cons _ _, equal | _, _, _, _, .cons _ _, .nil, equal => by cases equal

end

mutual

/-- Where two programs may be linked to the same one, equal values come from values
that are equal once the programs in one of them are exchanged. -/
theorem Alike.exists_looseEq (merged : ∀ i i' j, R i j → R i' j → S i i') :
    ∀ {left left' right right' : Value}, left.Alike R left' → right.Alike R right' →
    left'.looseEq right' = true → ∃ other, right.Alike S other ∧ left.looseEq other = true
  | _, _, right, _, .plain _, .plain plain, equal => ⟨right, .plain plain, equal⟩
  | _, _, _, _, .list xs, .list ys, equal => by
    rw [Value.looseEq] at equal
    obtain ⟨others, alike, same⟩ := items_exists_looseEq merged xs ys equal
    exact ⟨.list others, .list alike, by rwa [Value.looseEq]⟩
  | _, _, _, _, .map b, .map c, equal => by
    rw [Value.looseEq] at equal
    obtain ⟨others, alike, same⟩ := entries_exists_looseEq merged b c equal
    exact ⟨.map others, .map alike, by rwa [Value.looseEq]⟩
  | _, _, _, _, .macroRef linked, .macroRef linked', equal => by
    simp only [Value.looseEq, beq_iff_eq, MacroRef.mk.injEq] at equal
    obtain ⟨rfl, rfl, rfl, rfl⟩ := equal
    exact ⟨_, .macroRef (merged _ _ _ linked' linked), by simp [Value.looseEq]⟩
  | _, _, _, _, .plain plain, .list _, equal | _, _, _, _, .plain plain, .map _, equal
  | _, _, _, _, .plain plain, .macroRef _, equal => ((isPlain_of_looseEq equal).mp plain).elim
  | _, _, _, _, .list _, .plain plain, equal | _, _, _, _, .map _, .plain plain, equal
  | _, _, _, _, .macroRef _, .plain plain, equal => ((isPlain_of_looseEq equal).mpr plain).elim
  | _, _, _, _, .list _, .map _, equal | _, _, _, _, .list _, .macroRef _, equal
  | _, _, _, _, .map _, .list _, equal | _, _, _, _, .map _, .macroRef _, equal
  | _, _, _, _, .macroRef _, .list _, equal | _, _, _, _, .macroRef _, .map _, equal => by cases equal

theorem items_exists_looseEq (merged : ∀ i i' j, R i j → R i' j → S i i') :
    ∀ {xs xs' ys ys' : List Value}, List.Forall₂ (Alike R) xs xs' → List.Forall₂ (Alike R) ys ys' →
    looseEqItems xs' ys' = true →
    ∃ others, List.Forall₂ (Alike S) ys others ∧ looseEqItems xs others = true
  | _, _, _, _, .nil, .nil, _ => ⟨[], .nil, rfl⟩
  | _, _, _, _, .cons first rest, .cons first' rest', equal => by
    rw [looseEqItems, Bool.and_eq_true] at equal
    obtain ⟨other, alike, same⟩ := first.exists_looseEq merged first' equal.1
    obtain ⟨others, all_alike, all_same⟩ := items_exists_looseEq merged rest rest' equal.2
    exact ⟨other :: others, .cons alike all_alike, by simp [looseEqItems, same, all_same]⟩
  | _, _, _, _, .nil, .cons _ _, equal | _, _, _, _, .cons _ _, .nil, equal => by cases equal

theorem entries_exists_looseEq (merged : ∀ i i' j, R i j → R i' j → S i i') :
    ∀ {b b' c c' : Vars}, Bindings.Alike R b b' → Bindings.Alike R c c' →
    looseEqEntries b' c' = true →
    ∃ others, Bindings.Alike S c others ∧ looseEqEntries b others = true
  | _, _, _, _, .nil, .nil, _ => ⟨[], .nil, rfl⟩
  | _, _, _, _, .cons first rest, .cons first' rest', equal => by
    simp only [looseEqEntries, Bool.and_eq_true, beq_iff_eq] at equal
    obtain ⟨⟨rfl, equal⟩, equal'⟩ := equal
    obtain ⟨other, alike, same⟩ := first.exists_looseEq merged first' equal
    obtain ⟨others, all_alike, all_same⟩ := entries_exists_looseEq merged rest rest' equal'
    exact ⟨(_, other) :: others, .cons alike all_alike, by simp [looseEqEntries, same, all_same]⟩
  | _, _, _, _, .nil, .cons _ _, equal | _, _, _, _, .cons _ _, .nil, equal => by cases equal

end

end Value
end TemplateEngine
