import TemplateEngine.Proofs.FileSystem.Stays

/-!
# Names that stay below a directory

A name is confined iff it is not empty, does not start with a slash and has no `..` between
its slashes. The path of a confined name below a directory follows the directory and then
goes down only, so at none of its pieces it is above the directory.
-/

namespace TemplateEngine.Path

variable {path name piece dir : String} {pieces place : List String}

theorem splitSlash_eq_splitOn (cs : List Char) : splitSlash cs = cs.splitOn '/' := by
  induction cs with
  | nil => rfl
  | cons c rest ih =>
    rw [splitSlash, ih, List.splitOn_cons_eq_if_modifyHead]
    by_cases slash : c = '/'
    · simp [slash]
    · cases eq : rest.splitOn '/' with
      | nil => exact absurd eq (List.splitOn_ne_nil '/' rest)
      | cons piece pieces => simp [slash]

theorem mem_segments : piece ∈ segments path ↔ piece.toList ∈ path.toList.splitOn '/' := by
  rw [segments, splitSlash_eq_splitOn, List.mem_map]
  constructor
  · rintro ⟨cs, member, rfl⟩
    rwa [String.toList_ofList]
  · intro member
    exact ⟨_, member, String.ofList_toList⟩

/-- No slash is left in what stands between slashes. -/
theorem noSlash_of_mem_splitSlash {cs part : List Char} (h : part ∈ splitSlash cs) : '/' ∉ part := by
  induction cs generalizing part with
  | nil =>
    cases List.mem_singleton.mp h
    exact nofun
  | cons c rest ih =>
    rw [splitSlash] at h
    split at h
    case isTrue =>
      rcases List.mem_cons.mp h with rfl | h
      · exact nofun
      · exact ih h
    case isFalse other =>
      split at h
      case h_1 none => exact absurd none (splitSlash_ne_nil rest)
      case h_2 first others eq =>
        rw [eq] at ih
        rcases List.mem_cons.mp h with rfl | h
        · rintro (_ | member)
          · exact other rfl
          · exact ih List.mem_cons_self (by assumption)
        · exact ih (List.mem_cons_of_mem _ h)

theorem noSlash_of_mem_segments (h : piece ∈ segments path) : '/' ∉ piece.toList := by
  obtain ⟨part, member, rfl⟩ := List.mem_map.mp h
  rw [String.toList_ofList]
  exact noSlash_of_mem_splitSlash member

/-- The components of a relative name are its pieces, but for idle ones. -/
theorem mem_components_of_relative {component : String} (relative : isAbsolute name = false)
    (moves : isIdle component = false) :
    component ∈ components name ↔ component ∈ segments name := by
  have notDot : component ≠ "." := by
    rintro rfl
    cases moves
  unfold components
  simp only [relative, Bool.false_eq_true, if_false]
  split <;> simp [notDot, moves]

theorem isConfined_iff : isConfined name = true ↔
    name ≠ "" ∧ isAbsolute name = false ∧ ".." ∉ segments name := by
  simp only [isConfined, Bool.and_eq_true, bne_iff_ne, List.all_eq_true]
  refine and_congr_right fun _ => ⟨fun allowed => ?_, fun ⟨relative, down⟩ component member => ?_⟩
  · have relative : isAbsolute name = false := by
      refine Bool.eq_false_iff.mpr fun absolute => ?_
      have root : "/" ∈ components name := by simp [components, absolute]
      exact absurd rfl (allowed "/" root).1
    refine ⟨relative, fun up => ?_⟩
    exact absurd rfl (allowed ".." ((mem_components_of_relative relative rfl).mpr up)).2
  · constructor
    · rintro rfl
      have slash := (mem_components_of_relative relative rfl).mp member
      exact noSlash_of_mem_segments slash (List.mem_singleton_self '/')
    · rintro rfl
      exact down ((mem_components_of_relative relative rfl).mp member)

/-- Pieces that do not lead upwards lead down. -/
theorem prefix_foldl_follow (down : ".." ∉ pieces) : place <+: pieces.foldl follow place := by
  induction pieces generalizing place with
  | nil => exact List.prefix_refl place
  | cons piece rest ih =>
    obtain ⟨first, later⟩ := not_or.mp (mt List.mem_cons.mpr down)
    refine List.IsPrefix.trans ?_ (ih later)
    rw [follow, if_neg (Ne.symm first)]
    split
    · exact List.prefix_refl place
    · exact List.prefix_append place [piece]

/-- A path that is the one of a directory with pieces behind it that do not lead upwards. -/
structure LeadsBelow (dir path : String) : Prop where
  /-- It starts where the path of the directory starts. -/
  start : isAbsolute path = isAbsolute dir
  /-- The pieces behind those of the directory are names and idle ones. From wherever the path
  is followed, all of them stay in the directory. -/
  pieces : ∃ front more, segments path = front ++ more ∧
    (segments dir = front ∨ segments dir = front ++ [""]) ∧
    (∀ piece ∈ more, isIdle piece = true ∨ IsName piece) ∧
    ∀ place first, first <+: more →
      (segments dir).foldl follow place <+: (front ++ first).foldl follow place

theorem leadsBelow_join (confined : isConfined name = true) (dir : String) :
    LeadsBelow dir (join dir name) := by
  obtain ⟨-, relative, down⟩ := isConfined_iff.mp confined
  obtain ⟨front, eq, front_eq⟩ := segments_join relative dir
  refine ⟨isAbsolute_join relative dir, front, segments name, eq, front_eq, ?_, ?_⟩
  · intro piece member
    by_cases idle : isIdle piece = true
    · exact .inl idle
    · exact .inr ⟨noSlash_of_mem_segments member, by simpa using idle, ne_of_mem_of_not_mem member down⟩
  · intro place first part
    have same : (segments dir).foldl follow place = front.foldl follow place := by
      rcases front_eq with eq | eq
      · rw [eq]
      · rw [eq, foldl_follow_empty]
    rw [same, List.foldl_append]
    exact prefix_foldl_follow fun member => down (part.subset member)

end TemplateEngine.Path
