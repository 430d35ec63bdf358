/-!
# Bindings of names to values

Frames, maps and initial variables are finite maps from names to values. They
are kept as lists of pairs in strictly ascending order of their names, which is
the order of their UTF-8 bytes, so two maps with the same entries are the same
list. Insertion is total on every list; that it keeps the order is a lemma.
-/

namespace TemplateEngine

universe u v

/-- Pairs of a name and a value, read as a finite map. -/
abbrev Bindings (α : Type u) := List (String × α)

namespace Bindings

variable {α : Type u} {β : Type v}

/-- Names rise strictly, so each occurs once. -/
def Ordered (b : Bindings α) : Prop := b.Pairwise fun x y => x.1 < y.1

def get? (name : String) : Bindings α → Option α
  | [] => none
  | (key, value) :: rest => if key = name then some value else get? name rest

/-- Binds the name, in place of an earlier binding of it. -/
def insert (name : String) (value : α) : Bindings α → Bindings α
  | [] => [(name, value)]
  | (key, old) :: rest =>
    if name < key then (name, value) :: (key, old) :: rest
    else if name = key then (name, value) :: rest
    else (key, old) :: insert name value rest

/-- Removes every entry of the name. -/
def erase (name : String) : Bindings α → Bindings α
  | [] => []
  | (key, value) :: rest =>
    if key = name then erase name rest else (key, value) :: erase name rest

/-- Binds the entries one after the other; the last one of a name stays. -/
def insertAll (b : Bindings α) (entries : List (String × α)) : Bindings α :=
  entries.foldl (fun acc entry => insert entry.1 entry.2 acc) b

def ofList (entries : List (String × α)) : Bindings α := insertAll [] entries

@[simp] theorem get?_nil (name : String) : get? name ([] : Bindings α) = none := rfl

@[simp] theorem insertAll_nil (b : Bindings α) : insertAll b [] = b := rfl

@[simp] theorem insertAll_cons (b : Bindings α) (entry : String × α)
    (entries : List (String × α)) :
    insertAll b (entry :: entries) = insertAll (insert entry.1 entry.2 b) entries := rfl

@[simp] theorem get?_insert_self (name : String) (value : α) (b : Bindings α) :
    get? name (insert name value b) = some value := by
  induction b with
  | nil => simp [insert, get?]
  | cons entry rest ih =>
    obtain ⟨key, old⟩ := entry
    rw [insert]
    split
    · simp [get?]
    · split
      · simp [get?]
      · rename_i e
        simp [get?, Ne.symm e, ih]

theorem get?_insert_of_ne {name other : String} (h : other ≠ name) (value : α)
    (b : Bindings α) : get? other (insert name value b) = get? other b := by
  induction b with
  | nil => simp [insert, get?, Ne.symm h]
  | cons entry rest ih =>
    obtain ⟨key, old⟩ := entry
    rw [insert]
    split
    · simp [get?, Ne.symm h]
    · split
      · rename_i e
        simp [get?, ← e, Ne.symm h]
      · simp [get?, ih]

theorem get?_insert (name other : String) (value : α) (b : Bindings α) :
    get? other (insert name value b) = if other = name then some value else get? other b := by
  by_cases h : other = name
  · subst h
    simp
  · simp [h, get?_insert_of_ne h]

theorem get?_erase (name other : String) (b : Bindings α) :
    get? other (erase name b) = if other = name then none else get? other b := by
  induction b with
  | nil => simp [erase, get?]
  | cons entry rest ih =>
    obtain ⟨key, value⟩ := entry
    grind [erase, get?]

theorem mem_insert {name : String} {value : α} {b : Bindings α} {entry : String × α}
    (h : entry ∈ insert name value b) : entry = (name, value) ∨ entry ∈ b := by
  induction b with
  | nil => simpa [insert] using h
  | cons first rest ih =>
    obtain ⟨key, old⟩ := first
    rw [insert] at h
    split at h <;> grind

theorem get?_append (name : String) (b c : Bindings α) :
    get? name (b ++ c) = (get? name b).or (get? name c) := by
  induction b with
  | nil => simp
  | cons entry rest ih => by_cases h : entry.1 = name <;> simp [get?, h, ih]

/-- Of several entries of a name the last one is bound. -/
theorem get?_insertAll (name : String) (b : Bindings α) (entries : List (String × α)) :
    get? name (insertAll b entries) = (get? name entries.reverse).or (get? name b) := by
  induction entries generalizing b with
  | nil => simp
  | cons entry rest ih =>
    rw [insertAll_cons, ih, List.reverse_cons, get?_append, Option.or_assoc, get?_insert]
    by_cases h : name = entry.1
    · simp [get?, h]
    · simp [get?, h, Ne.symm h]

theorem get?_of_forall_lt {name : String} {b : Bindings α} (h : ∀ entry ∈ b, name < entry.1) :
    get? name b = none := by
  induction b with
  | nil => rfl
  | cons entry rest ih =>
    obtain ⟨first, rest'⟩ := List.forall_mem_cons.mp h
    have other : entry.1 ≠ name := by
      rintro rfl
      exact String.lt_irrefl _ first
    rw [get?, if_neg other]
    exact ih rest'

/-- In an ordered map each name has one entry, so it does not matter from where it is looked for. -/
theorem Ordered.get?_reverse {b : Bindings α} (h : b.Ordered) (name : String) :
    get? name b.reverse = get? name b := by
  induction b with
  | nil => rfl
  | cons first rest ih =>
    obtain ⟨above, tail⟩ := List.pairwise_cons.mp h
    rw [List.reverse_cons, get?_append, ih tail]
    by_cases e : first.1 = name
    · subst e
      rw [get?_of_forall_lt above]
      simp [get?]
    · simp [get?, e]

theorem ordered_nil : Ordered ([] : Bindings α) := List.Pairwise.nil

theorem Ordered.insert {b : Bindings α} (h : b.Ordered) (name : String) (value : α) :
    (b.insert name value).Ordered := by
  induction b with
  | nil => simp [Bindings.insert, Ordered]
  | cons first rest ih =>
    obtain ⟨key, old⟩ := first
    obtain ⟨above, tail⟩ := List.pairwise_cons.mp h
    by_cases l : name < key
    · simp only [Bindings.insert, l, if_true, Ordered]
      refine List.pairwise_cons.mpr ⟨fun entry member => ?_, h⟩
      rcases List.mem_cons.mp member with rfl | member
      · exact l
      · exact String.lt_trans l (above entry member)
    · by_cases e : name = key
      · subst e
        simp only [Bindings.insert, l, if_false, if_true, Ordered]
        exact List.pairwise_cons.mpr ⟨above, tail⟩
      · simp only [Bindings.insert, l, e, if_false, Ordered]
        refine List.pairwise_cons.mpr ⟨fun entry member => ?_, ih tail⟩
        rcases mem_insert member with rfl | member
        · exact Std.lt_of_le_of_ne (String.not_lt.mp l) (Ne.symm e)
        · exact above entry member

theorem Ordered.insertAll {b : Bindings α} (h : b.Ordered) (entries : List (String × α)) :
    (b.insertAll entries).Ordered := by
  induction entries generalizing b with
  | nil => exact h
  | cons entry rest ih => exact ih (h.insert entry.1 entry.2)

theorem ordered_ofList (entries : List (String × α)) : (ofList entries).Ordered :=
  ordered_nil.insertAll entries

end Bindings
end TemplateEngine
