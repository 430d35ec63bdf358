import TemplateEngine.Proofs.Value.Alike
import TemplateEngine.Proofs.Value.Leaves

/-!
# Other identities for the programs of macros

Renaming the programs of all macros in a value gives an alike value. Alike values have
alike leaves, and they compare alike if programs are linked one to one.
-/

namespace TemplateEngine

namespace Value

mutual

/-- The value with other identities for the programs of its macros. -/
def rename (f : Nat → Nat) : Value → Value
  | list items => list (renameItems f items)
  | map entries => map (renameEntries f entries)
  | macroRef ref => macroRef { ref with program := f ref.program }
  | plain => plain

def renameItems (f : Nat → Nat) : List Value → List Value
  | [] => []
  | item :: rest => rename f item :: renameItems f rest

def renameEntries (f : Nat → Nat) : List (String × Value) → List (String × Value)
  | [] => []
  | (name, value) :: rest => (name, rename f value) :: renameEntries f rest

end

theorem rename_plain {f : Nat → Nat} {v : Value} (h : v.IsPlain) : v.rename f = v := by
  cases v with
  | list | map | macroRef => cases h
  | _ => rfl

variable {R S : Nat → Nat → Prop} {f : Nat → Nat}

mutual

/-- What holds between the programs of alike values and the new ones links the values. -/
theorem Alike.rename (link : ∀ i j, R i j → S i (f j)) : ∀ {v w : Value}, v.Alike R w →
    v.Alike S (w.rename f)
  | .list _, _, .list items => .list (items_rename link items)
  | .map _, _, .map entries => .map (entries_rename link entries)
  | .macroRef _, _, .macroRef linked => .macroRef (link _ _ linked)
  | _, _, .plain plain => by
    rw [rename_plain plain]
    exact .plain plain

theorem items_rename (link : ∀ i j, R i j → S i (f j)) : ∀ {xs ys : List Value},
    List.Forall₂ (Alike R) xs ys → List.Forall₂ (Alike S) xs (renameItems f ys)
  | [], _, .nil => .nil
  | _ :: _, _, .cons first rest => .cons (first.rename link) (items_rename link rest)

theorem entries_rename (link : ∀ i j, R i j → S i (f j)) : ∀ {b c : Vars},
    Bindings.Alike R b c → Bindings.Alike S b (renameEntries f c)
  | [], _, .nil => .nil
  | _ :: _, _, .cons first rest => .cons (first.rename link) (entries_rename link rest)

end

mutual

theorem Alike.flip : ∀ {v w : Value}, v.Alike R w → w.Alike (flip R) v
  | .list _, _, .list items => .list (items_flip items)
  | .map _, _, .map entries => .map (entries_flip entries)
  | .macroRef _, _, .macroRef linked => .macroRef linked
  | _, _, .plain plain => .plain plain

theorem items_flip : ∀ {xs ys : List Value},
    List.Forall₂ (Alike R) xs ys → List.Forall₂ (Alike (flip R)) ys xs
  | [], _, .nil => .nil
  | _ :: _, _, .cons first rest => .cons first.flip (items_flip rest)

theorem entries_flip : ∀ {b c : Vars}, Bindings.Alike R b c → Bindings.Alike (flip R) c b
  | [], _, .nil => .nil
  | _ :: _, _, .cons first rest => .cons first.flip (entries_flip rest)

end

/-- Where programs are linked one to one, comparing alike values gives the same. -/
theorem looseEq_alike (functional : ∀ i j j', R i j → R i j' → j = j')
    (injective : ∀ i i' j, R i j → R i' j → i = i') {left left' right right' : Value}
    (hl : left.Alike R left') (hr : right.Alike R right') :
    left.looseEq right = left'.looseEq right' := by
  rw [Bool.eq_iff_iff]
  constructor
  · exact hl.looseEq functional hr
  · exact hl.flip.looseEq (fun j i i' linked linked' => injective i i' j linked linked') hr.flip

mutual

theorem Alike.leaves : ∀ {v w : Value}, v.Alike R w →
    List.Forall₂ (Alike R) v.leaves w.leaves
  | .list _, _, .list items => by
    rw [Value.leaves, Value.leaves]
    exact items_leaves items
  | .map _, _, .map entries => by
    rw [Value.leaves, Value.leaves]
    exact entries_leaves entries
  | .macroRef _, _, .macroRef linked => .cons (.macroRef linked) .nil
  | .undef, _, .plain plain | .bool _, _, .plain plain | .int _, _, .plain plain
  | .float _, _, .plain plain | .str _, _, .plain plain | .raw _, _, .plain plain =>
    .cons (.plain plain) .nil

theorem items_leaves : ∀ {xs ys : List Value}, List.Forall₂ (Alike R) xs ys →
    List.Forall₂ (Alike R) (leavesOfItems xs) (leavesOfItems ys)
  | [], _, .nil => .nil
  | _ :: _, _, .cons first rest => List.rel_append first.leaves (items_leaves rest)

theorem entries_leaves : ∀ {b c : Vars}, Bindings.Alike R b c →
    List.Forall₂ (Alike R) (leavesOfEntries b) (leavesOfEntries c)
  | [], _, .nil => .nil
  | _ :: _, _, .cons first rest => List.rel_append first.leaves (entries_leaves rest)

end

/-- What carries over to alike leaves carries over to alike values. -/
theorem Alike.all {P Q : Value → Prop} {v w : Value} (h : v.Alike R w)
    (carries : ∀ {leaf leaf' : Value}, leaf.Alike R leaf' → P leaf → Q leaf') (all : v.All P) :
    w.All Q := by
  have leaves := h.leaves
  unfold All at all ⊢
  generalize v.leaves = xs at leaves all
  generalize w.leaves = ys at leaves
  induction leaves with
  | nil => exact nofun
  | cons first _ ih =>
    obtain ⟨here, later⟩ := List.forall_mem_cons.mp all
    exact List.forall_mem_cons.mpr ⟨carries first here, ih later⟩

end Value
end TemplateEngine
