import TemplateEngine.Loader.Source
import TemplateEngine.Proofs.FileSystem.Confined
import TemplateEngine.Proofs.FileSystem.Finds

/-!
# The first directory with a template

Below each directory in turn a search looks for a file of a name. It passes over a directory
below which there is nothing of that name or a directory, and takes the first file. A path that
runs through a file is not passed over: it ends the search with an error, even if a file of the
name is below a later directory.
-/

namespace TemplateEngine

namespace FileSystem

/-- Nothing is at the path, or a directory. -/
def Passes (fs : FileSystem) (path : String) : Prop :=
  fs.Misses path ∨ ∃ entries, fs.Holds path (.directory entries)

/-- A file with the text is at the path. -/
def HasText (fs : FileSystem) (path text : String) (modified : Timestamp) : Prop :=
  ∃ content, fs.Holds path (.file content modified) ∧ Text.ofUtf8? content = some text

end FileSystem

namespace Source

variable {files : FileSystem} {path name : String} {roots : List String} {s : Storage}

theorem openAt_eq_none_iff (nonempty : path ≠ "") :
    openAt files path = .ok none ↔ files.Passes path := by
  unfold FileSystem.Passes openAt
  simp only [← FileSystem.find_eq_notFound_iff nonempty, ← FileSystem.find_eq_ok_iff]
  cases files.find path with
  | error fault => cases fault <;> simp
  | ok entry =>
    cases entry with
    | directory entries => simp
    | file content modified =>
      dsimp only
      split <;> simp

theorem openAt_eq_some_iff {found : SourceText} : openAt files path = .ok (some found) ↔
    ∃ text modified, files.HasText path text modified ∧
      found = ⟨some path, text, some modified⟩ := by
  unfold FileSystem.HasText openAt
  simp only [← FileSystem.find_eq_ok_iff]
  cases files.find path with
  | error fault => cases fault <;> simp
  | ok entry =>
    cases entry with
    | directory entries => simp
    | file content modified =>
      dsimp only
      split
      case h_1 text decoded =>
        constructor
        · rintro ⟨⟩
          exact ⟨text, modified, ⟨content, rfl, decoded⟩, rfl⟩
        · rintro ⟨_, _, ⟨_, ⟨⟩, same⟩, rfl⟩
          cases decoded.symm.trans same
          rfl
      case h_2 undecoded => simp [undecoded]

theorem openAt_eq_notDirectory_iff (nonempty : path ≠ "") :
    openAt files path = .error .notDirectory ↔ files.RunsThroughFile path := by
  unfold openAt
  rw [← FileSystem.find_eq_notDirectory_iff nonempty]
  cases files.find path with
  | error fault => cases fault <;> simp
  | ok entry =>
    cases entry with
    | directory entries => simp
    | file content modified =>
      dsimp only
      split <;> simp

theorem search_cons (root : String) (rest : List String) : search files name (root :: rest) =
    match openAt files (Path.join root name) with
    | .ok none => search files name rest
    | result => result := by
  rw [search]
  rcases openAt files (Path.join root name) with fault | _ | found <;> rfl

theorem search_eq_none_iff : search files name roots = .ok none ↔
    ∀ root ∈ roots, openAt files (Path.join root name) = .ok none := by
  induction roots with
  | nil => simp [search]
  | cons root rest ih =>
    rw [search_cons, List.forall_mem_cons]
    rcases openAt files (Path.join root name) with fault | _ | found <;> simp [ih]

/-- What ends a search is found below the first directory that is not passed over. -/
theorem search_eq_iff {result : Except FileFault (Option SourceText)} (ends : result ≠ .ok none) :
    search files name roots = result ↔
      ∃ before root after, roots = before ++ root :: after ∧
        (∀ earlier ∈ before, openAt files (Path.join earlier name) = .ok none) ∧
        openAt files (Path.join root name) = result := by
  induction roots with
  | nil => simp [search, ends.symm]
  | cons first rest ih =>
    rw [search_cons]
    constructor
    · intro found
      by_cases passed : openAt files (Path.join first name) = .ok none
      · rw [passed] at found
        obtain ⟨before, root, after, rfl, earlier, here⟩ := ih.mp found
        exact ⟨first :: before, root, after, rfl, List.forall_mem_cons.mpr ⟨passed, earlier⟩, here⟩
      · refine ⟨[], first, rest, rfl, nofun, ?_⟩
        rcases opened : openAt files (Path.join first name) with fault | _ | text
        · rwa [opened] at found
        · exact absurd opened passed
        · rwa [opened] at found
    · rintro ⟨before, root, after, eq, earlier, here⟩
      cases before with
      | nil =>
        cases eq
        rw [here]
        rcases result with fault | _ | text
        · rfl
        · exact absurd rfl ends
        · rfl
      | cons _ before =>
        cases eq
        obtain ⟨passed, earlier⟩ := List.forall_mem_cons.mp earlier
        rw [passed]
        exact ih.mpr ⟨before, root, after, rfl, earlier, here⟩

/-- Below all directories before `root` the name is passed over. -/
def ComesTo (files : FileSystem) (name : String) (roots : List String) (root : String) : Prop :=
  ∃ before after, roots = before ++ root :: after ∧
    ∀ earlier ∈ before, files.Passes (Path.join earlier name)

theorem search_eq_iff_comesTo (nonempty : name ≠ "")
    (result : Except FileFault (Option SourceText)) (ends : result ≠ .ok none) :
    search files name roots = result ↔
      ∃ root, ComesTo files name roots root ∧ openAt files (Path.join root name) = result := by
  simp only [search_eq_iff ends, ComesTo, openAt_eq_none_iff (Path.join_ne_empty nonempty _)]
  constructor
  · rintro ⟨before, root, after, eq, earlier, here⟩
    exact ⟨root, ⟨before, after, eq, earlier⟩, here⟩
  · rintro ⟨root, ⟨before, after, eq, earlier⟩, here⟩
    exact ⟨before, root, after, eq, earlier, here⟩

theorem resolve_directories (confined : Path.isConfined name = true) :
    (directories roots).resolve s name = match search s.files name roots with
      | .ok (some found) => .ok found
      | .ok none => .error (.notFound name roots)
      | .error fault => .error (.file name fault) := by
  rw [resolve, confined]
  rfl

theorem resolve_eq_ok_iff {found : SourceText} (confined : Path.isConfined name = true) :
    (directories roots).resolve s name = .ok found ↔
      search s.files name roots = .ok (some found) := by
  rw [resolve_directories confined]
  rcases search s.files name roots with fault | _ | text <;> simp

theorem resolve_eq_notFound_iff (confined : Path.isConfined name = true) :
    (directories roots).resolve s name = .error (.notFound name roots) ↔
      search s.files name roots = .ok none := by
  rw [resolve_directories confined]
  rcases search s.files name roots with fault | _ | text <;> simp

theorem resolve_eq_file_iff {fault : FileFault} (confined : Path.isConfined name = true) :
    (directories roots).resolve s name = .error (.file name fault) ↔
      search s.files name roots = .error fault := by
  rw [resolve_directories confined]
  rcases search s.files name roots with fault | _ | text <;> simp

/-- The empty name leads to no file. -/
theorem not_hasText_empty {root text : String} {modified : Timestamp} :
    ¬files.HasText (Path.join root "") text modified := by
  rintro ⟨content, ⟨-, place, leads⟩, -⟩
  have relative : Path.isAbsolute "" = false := rfl
  obtain ⟨front, eq, -⟩ := Path.segments_join relative root
  have ends : files.pieces (Path.join root "") = files.base (Path.join root "") ++ front ++ [""] := by
    rw [FileSystem.pieces, eq, List.append_assoc]
    rfl
  rw [ends] at leads
  obtain ⟨entries, same⟩ := leads.isDirectory rfl
  cases same

/-- The text of a name is the one below the first directory that has a file of the name, if in
all directories before it there is nothing or a directory of that name; and no directory has one
if this is so in all of them. A path that runs through a file ends the search. -/
theorem first_root_wins (relative : Path.isAbsolute name = false)
    (down : ".." ∉ Path.segments name) (roots : List String) (s : Storage) :
    (∀ found, (directories roots).resolve s name = .ok found ↔
      ∃ root text modified, ComesTo s.files name roots root ∧
        s.files.HasText (Path.join root name) text modified ∧
        found = ⟨some (Path.join root name), text, some modified⟩) ∧
    ((directories roots).resolve s name = .error (.notFound name roots) ↔
      name = "" ∨ ∀ root ∈ roots, s.files.Passes (Path.join root name)) ∧
    ((directories roots).resolve s name = .error (.file name .notDirectory) ↔
      name ≠ "" ∧ ∃ root, ComesTo s.files name roots root ∧
        s.files.RunsThroughFile (Path.join root name)) := by
  by_cases empty : name = ""
  · subst empty
    have refused : (directories roots).resolve s "" = .error (.notFound "" roots) := rfl
    simp [refused, not_hasText_empty]
  · have confined := Path.isConfined_iff.mpr ⟨empty, relative, down⟩
    have nonempty (root : String) := Path.join_ne_empty empty root
    refine ⟨fun found => ?_, ?_, ?_⟩
    · rw [resolve_eq_ok_iff confined, search_eq_iff_comesTo empty (.ok (some found)) nofun]
      simp only [openAt_eq_some_iff]
      constructor
      · rintro ⟨root, comes, text, modified, has, eq⟩
        exact ⟨root, text, modified, comes, has, eq⟩
      · rintro ⟨root, text, modified, comes, has, eq⟩
        exact ⟨root, comes, text, modified, has, eq⟩
    · rw [resolve_eq_notFound_iff confined, search_eq_none_iff]
      simp only [openAt_eq_none_iff (nonempty _), empty, false_or]
    · rw [resolve_eq_file_iff confined, search_eq_iff_comesTo empty (.error .notDirectory) nofun]
      simp only [openAt_eq_notDirectory_iff (nonempty _), ne_eq, empty, not_false_eq_true, true_and]

end Source

namespace TwoDirectories

/-- Below `one` there are a file and a directory, each of which has the name of the other below
`two`. -/
def storage : Storage where
  files := ⟨.directory [("work", .directory [
    ("one", .directory [
      ("pages", .file (Text.utf8 "all pages") ⟨0, 0⟩),
      ("index.tx", .directory [])]),
    ("two", .directory [
      ("pages", .directory [("home.tx", .file (Text.utf8 "home") ⟨0, 0⟩)]),
      ("index.tx", .file (Text.utf8 "index") ⟨0, 0⟩)])])], ["work"]⟩
  templates := []
  memory := []
  nextId := 0
  log := []

def source : Source := .directories ["one", "two"]

/-- The directory of that name is passed over. -/
theorem index_found : source.resolve storage "index.tx" =
    .ok ⟨some "two/index.tx", "index", some ⟨0, 0⟩⟩ := by
  have relative : Path.isAbsolute "index.tx" = false := by decide +kernel
  have down : ".." ∉ Path.segments "index.tx" := by decide +kernel
  have wins := Source.first_root_wins relative down ["one", "two"] storage
  refine (wins.1 _).mpr ⟨"two", "index", ⟨0, 0⟩, ⟨["one"], [], rfl, ?_⟩, ?_, ?_⟩
  · intro earlier member
    cases List.mem_singleton.mp member
    exact .inr ⟨[], FileSystem.find_eq_ok_iff.mp (by rfl)⟩
  · exact ⟨_, FileSystem.find_eq_ok_iff.mp (by rfl), Text.ofUtf8?_utf8 "index"⟩
  · rfl

/-- The file with the name of a directory hides what is in that directory. -/
theorem home_hidden : ¬ ∀ (s : Storage) (name : String), Path.isAbsolute name = false →
    ".." ∉ Path.segments name → ∀ before root after text modified,
    (∀ earlier ∈ before, s.files.Passes (Path.join earlier name) ∨
      s.files.RunsThroughFile (Path.join earlier name)) →
    s.files.HasText (Path.join root name) text modified →
    (Source.directories (before ++ root :: after)).resolve s name =
      .ok ⟨some (Path.join root name), text, some modified⟩ := by
  intro wins
  have failed : source.resolve storage "pages/home.tx" =
      .error (.file "pages/home.tx" .notDirectory) := by rfl
  have found := wins storage "pages/home.tx" (by decide +kernel) (by decide +kernel) ["one"] "two"
    [] "home" ⟨0, 0⟩ ?_ ?_
  · cases failed.symm.trans found
  · intro earlier member
    cases List.mem_singleton.mp member
    exact .inr ((FileSystem.find_eq_notDirectory_iff (by decide)).mp (by rfl))
  · exact ⟨_, FileSystem.find_eq_ok_iff.mp (by rfl), Text.ofUtf8?_utf8 "home"⟩

end TwoDirectories
end TemplateEngine
