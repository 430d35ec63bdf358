import Mathlib.Logic.Basic
import TemplateEngine.Proofs.Loader.Search

/-!
# What a search opens

Whatever the name of a template, its search opens paths below the directories only: the path
of a directory followed by names, dots and nothing, from which no way leads upwards. The rest of
the files has no part in what is found. A name that could lead elsewhere opens nothing.
-/

namespace TemplateEngine

namespace Source

variable {files files' : FileSystem} {name path : String} {roots : List String}

/-- A look at a path, before a search that goes on only if nothing is there. -/
def lookOpening (path : String) (look : Except FileFault (Option SourceText))
    (later : Except FileFault (Option SourceText) × List String) :
    Except FileFault (Option SourceText) × List String :=
  match look with
  | .ok none => (later.1, path :: later.2)
  | .ok (some found) => (.ok (some found), [path])
  | .error fault => (.error fault, [path])

/-- A search, and the paths that it opens in order. -/
def searchOpening (files : FileSystem) (name : String) :
    List String → Except FileFault (Option SourceText) × List String
  | [] => (.ok none, [])
  | root :: rest =>
    lookOpening (Path.join root name) (openAt files (Path.join root name))
      (searchOpening files name rest)

/-- The text of a template below the directories, and the paths that are opened to find it. -/
def resolveOpening (roots : List String) (s : Storage) (name : String) :
    Except Error SourceText × List String :=
  if !Path.isConfined name then (.error (.notFound name roots), [])
  else
    let found := searchOpening s.files name roots
    let result := match found.1 with
      | .ok (some text) => .ok text
      | .ok none => .error (.notFound name roots)
      | .error fault => .error (.file name fault)
    (result, found.2)

theorem searchOpening_cons_passed {root : String} {rest : List String}
    (passed : openAt files (Path.join root name) = .ok none) :
    searchOpening files name (root :: rest) = ((searchOpening files name rest).1,
      Path.join root name :: (searchOpening files name rest).2) := by
  rw [searchOpening, passed, lookOpening]

theorem searchOpening_cons_ends {root : String} {rest : List String}
    (ends : openAt files (Path.join root name) ≠ .ok none) :
    searchOpening files name (root :: rest) =
      (openAt files (Path.join root name), [Path.join root name]) := by
  rw [searchOpening]
  rcases look : openAt files (Path.join root name) with fault | _ | found
  · rfl
  · exact absurd look ends
  · rfl

theorem searchOpening_value : ∀ roots, (searchOpening files name roots).1 = search files name roots
  | [] => rfl
  | root :: rest => by
    rw [searchOpening, search_cons]
    rcases openAt files (Path.join root name) with fault | _ | found
    · rfl
    · exact searchOpening_value rest
    · rfl

theorem resolveOpening_value (roots : List String) (s : Storage) (name : String) :
    (resolveOpening roots s name).1 = (directories roots).resolve s name := by
  rw [resolveOpening, resolve, ← searchOpening_value]
  split <;> rfl

theorem resolveOpening_opened (confined : Path.isConfined name = true) (s : Storage) :
    (resolveOpening roots s name).2 = (searchOpening s.files name roots).2 := by
  rw [resolveOpening, confined]
  rfl

theorem resolveOpening_rejected {s : Storage} (refused : Path.isConfined name = false) :
    resolveOpening roots s name = (.error (.notFound name roots), []) := by
  rw [resolveOpening, refused]
  rfl

theorem exists_root_of_mem_searchOpening (opened : path ∈ (searchOpening files name roots).2) :
    ∃ root ∈ roots, path = Path.join root name := by
  induction roots with
  | nil => cases opened
  | cons root rest ih =>
    by_cases passed : openAt files (Path.join root name) = .ok none
    · rw [searchOpening_cons_passed passed] at opened
      rcases List.mem_cons.mp opened with rfl | later
      · exact ⟨root, List.mem_cons_self, rfl⟩
      · obtain ⟨root', member, eq⟩ := ih later
        exact ⟨root', List.mem_cons_of_mem _ member, eq⟩
    · rw [searchOpening_cons_ends passed] at opened
      exact ⟨root, List.mem_cons_self, List.mem_singleton.mp opened⟩

theorem head?_searchOpening :
    (searchOpening files name roots).2.head? = roots.head?.map (Path.join · name) := by
  cases roots with
  | nil => rfl
  | cons root rest =>
    by_cases passed : openAt files (Path.join root name) = .ok none
    · rw [searchOpening_cons_passed passed]
      rfl
    · rw [searchOpening_cons_ends passed]
      rfl

theorem openAt_congr (same : files'.find path = files.find path) :
    openAt files' path = openAt files path := by
  rw [openAt, same, openAt]

/-- A search goes on in the same way as long as what it opens is the same. -/
theorem searchOpening_congr
    (same : ∀ path ∈ (searchOpening files name roots).2, files'.find path = files.find path) :
    searchOpening files' name roots = searchOpening files name roots := by
  induction roots with
  | nil => rfl
  | cons root rest ih =>
    by_cases passed : openAt files (Path.join root name) = .ok none
    · rw [searchOpening_cons_passed passed] at same ⊢
      obtain ⟨here, later⟩ := List.forall_mem_cons.mp same
      rw [searchOpening_cons_passed ((openAt_congr here).trans passed), ih later]
    · rw [searchOpening_cons_ends passed] at same ⊢
      have here := openAt_congr (same _ (List.mem_singleton_self _))
      rw [searchOpening_cons_ends (here ▸ passed), here]

theorem resolveOpening_congr {s s' : Storage} (same : ∀ path ∈ (resolveOpening roots s name).2,
    s'.files.find path = s.files.find path) :
    resolveOpening roots s' name = resolveOpening roots s name := by
  cases confined : Path.isConfined name with
  | false => rw [resolveOpening_rejected confined, resolveOpening_rejected confined]
  | true =>
    rw [resolveOpening_opened confined] at same
    rw [resolveOpening, searchOpening_congr same, resolveOpening]

/-- If there are directories, every name but those rejected opens a path below the first. -/
theorem resolveOpening_eq_rejected_iff {s : Storage} :
    resolveOpening roots s name = (.error (.notFound name roots), []) ↔
      roots = [] ∨ Path.isConfined name = false := by
  constructor
  · intro rejected
    cases confined : Path.isConfined name with
    | false => exact .inr rfl
    | true =>
      have first : (resolveOpening roots s name).2.head? = roots.head?.map (Path.join · name) := by
        rw [resolveOpening_opened confined, head?_searchOpening]
      rw [rejected] at first
      cases roots with
      | nil => exact .inl rfl
      | cons root rest => cases first
  · rintro (rfl | refused)
    · rw [resolveOpening]
      split <;> rfl
    · exact resolveOpening_rejected refused

theorem isConfined_eq_false_iff : Path.isConfined name = false ↔
    name = "" ∨ name.toList.head? = some '/' ∨ "..".toList ∈ name.toList.splitOn '/' := by
  rw [← Bool.not_eq_true, Path.isConfined_iff, Path.mem_segments]
  simp only [Path.isAbsolute, beq_eq_false_iff_ne, not_and_or, not_not, ne_eq]

/-- To resolve a name, nothing is opened but the path of the name below each of some directories,
and what is found depends on nothing else in the files. If there are directories, a name is
rejected before anything is opened iff it is empty, starts with a slash or has `..` between its
slashes. -/
theorem resolve_confined (roots : List String) (s : Storage) (name : String) :
    (resolveOpening roots s name).1 = (directories roots).resolve s name ∧
    (∀ path ∈ (resolveOpening roots s name).2,
      ∃ root ∈ roots, path = Path.join root name ∧ Path.LeadsBelow root path) ∧
    (∀ s' : Storage,
      (∀ path ∈ (resolveOpening roots s name).2, s'.files.find path = s.files.find path) →
      (directories roots).resolve s' name = (directories roots).resolve s name) ∧
    (resolveOpening roots s name = (.error (.notFound name roots), []) ↔
      roots = [] ∨ name = "" ∨ name.toList.head? = some '/' ∨
        "..".toList ∈ name.toList.splitOn '/') := by
  refine ⟨resolveOpening_value roots s name, ?_, ?_, ?_⟩
  · intro path opened
    cases confined : Path.isConfined name with
    | false =>
      rw [resolveOpening_rejected confined] at opened
      cases opened
    | true =>
      rw [resolveOpening_opened confined] at opened
      obtain ⟨root, member, rfl⟩ := exists_root_of_mem_searchOpening opened
      exact ⟨root, member, rfl, Path.leadsBelow_join confined root⟩
  · intro s' same
    rw [← resolveOpening_value, ← resolveOpening_value, resolveOpening_congr same]
  · rw [resolveOpening_eq_rejected_iff, isConfined_eq_false_iff]

end Source

namespace Dotted

/-- A page below `pages`, and beside that directory a file with some text. -/
def storage (secret : String) : Storage where
  files := ⟨.directory [("work", .directory [
    ("pages", .directory [("..a", .directory [("b", .file (Text.utf8 "page") ⟨0, 0⟩)])]),
    ("secret", .file (Text.utf8 secret) ⟨0, 0⟩)])], ["work"]⟩
  templates := []
  memory := []
  nextId := 0
  log := []

/-- Dots and slashes in the name of the page lead nowhere else. -/
theorem page_found :
    (Source.directories ["pages"]).resolve (storage "new") "..a/.//b" =
      .ok ⟨some "pages/..a/.//b", "page", some ⟨0, 0⟩⟩ := by
  have opened : (Source.resolveOpening ["pages"] (storage "old") "..a/.//b").2 =
      ["pages/..a/.//b"] := by rfl
  have confined := Source.resolve_confined ["pages"] (storage "old") "..a/.//b"
  refine (confined.2.2.1 (storage "new") ?_).trans ?_
  · rw [opened]
    intro path member
    cases List.mem_singleton.mp member
    rfl
  · rfl

end Dotted
end TemplateEngine
