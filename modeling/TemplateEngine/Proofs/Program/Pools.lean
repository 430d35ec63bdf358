import TemplateEngine.Proofs.Program.CodeAt

/-!
# Constants and names in their pools

An element that is given a place in a pool is added behind the others unless it is there.
So a pool that starts empty holds nothing twice, and nothing that no place was asked for,
and the places are asked for in their order. Laying out a program is nothing but giving
places to the constants and to the names of its operations, one after the other.
-/

namespace TemplateEngine

namespace Op

variable {κ ν μ : Type}

/-- The constant that an operation refers to. -/
def constant? : Op κ ν μ → Option κ
  | .constLoad constant => some constant
  | _ => none

/-- The name that an operation refers to. -/
def name? : Op κ ν μ → Option ν
  | .loadVar name | .storeVar name | .fieldName name | .forIter name _ => some name
  | _ => none

end Op

/-- A pool with each element once and in the order in which its places are first used. -/
structure Minimal {α : Type} (pool : List α) (uses : List Nat) : Prop where
  distinct : pool.Nodup
  used : ∀ i < pool.length, i ∈ uses
  firstUses : uses.eraseDups = List.range pool.length

section

variable {α : Type} [DecidableEq α]

/-- The places of some elements, one after the other, and the pool with all of them in it. -/
def placeAll (pool : List α) : List α → List Nat × List α
  | [] => ([], pool)
  | x :: rest =>
    let (i, pool) := place pool x
    let (places, pool) := placeAll pool rest
    (i :: places, pool)

theorem placeAll_cons (pool : List α) (x : α) (rest : List α) :
    placeAll pool (x :: rest) = ((place pool x).1 :: (placeAll (place pool x).2 rest).1,
      (placeAll (place pool x).2 rest).2) := rfl

theorem place_cases (pool : List α) (x : α) :
    (∃ i < pool.length, place pool x = (i, pool)) ∨
      x ∉ pool ∧ place pool x = (pool.length, pool ++ [x]) := by
  unfold place
  cases found : pool.idxOf? x with
  | none => exact .inr ⟨List.idxOf?_eq_none_iff.mp found, rfl⟩
  | some i =>
    obtain ⟨inside, -, -⟩ := List.idxOf?_eq_some_iff.mp found
    exact .inl ⟨i, inside, rfl⟩

theorem nodup_place {pool : List α} (distinct : pool.Nodup) (x : α) : (place pool x).2.Nodup := by
  rcases place_cases pool x with ⟨i, -, same⟩ | ⟨new, added⟩
  · rw [same]
    exact distinct
  · rw [added]
    exact List.nodup_append.mpr ⟨distinct, by simp, by grind⟩

theorem nodup_placeAll {pool : List α} (distinct : pool.Nodup) (xs : List α) :
    (placeAll pool xs).2.Nodup := by
  induction xs generalizing pool with
  | nil => exact distinct
  | cons x rest ih => exact ih (nodup_place distinct x)

theorem eraseDups_range (n : Nat) : (List.range n).eraseDups = List.range n := by
  induction n with
  | zero => rfl
  | succ n ih =>
    have new : [n].removeAll (List.range n) = [n] := by simp [List.removeAll]
    rw [List.range_succ, List.eraseDups_append, ih, new]
    rfl

/-- A place is either one that is there or the next one. -/
theorem eraseDups_place (pool : List α) (x : α) (places : List Nat) :
    (List.range pool.length ++ (place pool x).1 :: places).eraseDups
      = (List.range (place pool x).2.length ++ places).eraseDups := by
  rcases place_cases pool x with ⟨i, inside, same⟩ | ⟨-, added⟩
  · have known : (i :: places).removeAll (List.range pool.length)
        = places.removeAll (List.range pool.length) := by
      simp [List.removeAll, inside]
    rw [same, List.eraseDups_append, List.eraseDups_append, known]
  · rw [added, List.length_append, List.length_singleton, List.range_succ, List.append_assoc,
      List.singleton_append]

theorem eraseDups_placeAll (pool xs : List α) :
    (List.range pool.length ++ (placeAll pool xs).1).eraseDups
      = List.range (placeAll pool xs).2.length := by
  induction xs generalizing pool with
  | nil => rw [placeAll, List.append_nil, eraseDups_range]
  | cons x rest ih => exact (eraseDups_place pool x _).trans (ih _)

theorem minimal_placeAll (xs : List α) : Minimal (placeAll [] xs).2 (placeAll [] xs).1 := by
  have first : (placeAll [] xs).1.eraseDups = List.range (placeAll [] xs).2.length :=
    eraseDups_placeAll [] xs
  refine ⟨nodup_placeAll List.nodup_nil xs, ?_, first⟩
  intro i inside
  rw [← List.mem_eraseDups, first]
  exact List.mem_range.mpr inside

end

namespace Pools

variable {α : Type} [DecidableEq α]

/-- Laying out gives a place in one of the pools to what an operation gives for it. -/
def Places (pool : Pools → List α) (given : SourceOp → Option α)
    (taken : Instruction → Option Nat) : Prop :=
  ∀ p op, match given op with
    | none => taken (p.layOut op).1 = none ∧ pool (p.layOut op).2 = pool p
    | some x =>
      taken (p.layOut op).1 = some (place (pool p) x).1 ∧ pool (p.layOut op).2 = (place (pool p) x).2

theorem places_constants : Places Pools.constants Op.constant? Op.constant? := by
  intro p op
  cases op <;> exact ⟨rfl, rfl⟩

theorem places_names : Places Pools.names Op.name? Op.name? := by
  intro p op
  cases op <;> exact ⟨rfl, rfl⟩

variable {pool : Pools → List α} {given : SourceOp → Option α} {taken : Instruction → Option Nat}

theorem Places.layOutAll (h : Places pool given taken) (p : Pools) (ops : List SourceOp) :
    placeAll (pool p) (ops.filterMap given)
      = ((p.layOutAll ops).1.filterMap taken, pool (p.layOutAll ops).2) := by
  induction ops generalizing p with
  | nil => rfl
  | cons op rest ih =>
    have step := h p op
    have later := ih (p.layOut op).2
    rw [Pools.layOutAll]
    cases given_op : given op with
    | none =>
      rw [given_op] at step
      obtain ⟨none, same⟩ := step
      rw [List.filterMap_cons_none given_op, List.filterMap_cons_none none, ← same]
      exact later
    | some x =>
      rw [given_op] at step
      obtain ⟨some, added⟩ := step
      rw [List.filterMap_cons_some given_op, List.filterMap_cons_some some, placeAll_cons, ← added,
        later]

theorem Places.minimal (h : Places pool given taken) (nothing : pool .empty = [])
    (ops : List SourceOp) :
    Minimal (pool (empty.layOutAll ops).2) ((empty.layOutAll ops).1.filterMap taken) := by
  have placed := h.layOutAll .empty ops
  rw [nothing] at placed
  have minimal := minimal_placeAll (ops.filterMap given)
  rw [placed] at minimal
  exact minimal

end Pools
end TemplateEngine
