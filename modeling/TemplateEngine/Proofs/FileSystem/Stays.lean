import TemplateEngine.Proofs.FileSystem.Places

/-!
# What stays in a file system

Putting or removing a file leaves what is at all other places, and making directories
leaves what is at any place. A path along directories can be followed, so a file behind
such a path can be read.
-/

namespace TemplateEngine

namespace Entry

/-- The content of a file; a directory has none. -/
def content? : Entry → Option (List UInt8)
  | file content _ => some content
  | directory _ => none

/-- The content of what is at a place; a directory has none. -/
def kindAt? (place : List String) (e : Entry) : Option (Option (List UInt8)) :=
  (at? place e).map content?

/-- A directory is at the place. -/
def IsDirectory (e : Entry) (place : List String) : Prop := kindAt? place e = some none

/-- Following the pieces of a path from a place leads through directories only. -/
def Opens (e : Entry) : List String → List String → Prop
  | place, [] => e.IsDirectory place
  | place, segment :: rest => e.IsDirectory place ∧
      (Path.isIdle segment ∨ segment = ".." ∨ segment.utf8ByteSize ≤ maxName) ∧
      e.Opens (Path.follow place segment) rest

variable {e e' entry : Entry} {entries : List (String × Entry)} {name : String}
  {names place rest pieces : List String} {kind : Option (List UInt8)}
  {change : Option Entry → Except FileFault (Option Entry)}

@[simp] theorem kindAt?_cons_directory :
    kindAt? (name :: rest) (directory entries) = (Bindings.get? name entries).bind (kindAt? rest) := by
  cases found : Bindings.get? name entries <;> simp [kindAt?, at?, found]

theorem fileAt?_eq_some {content : List UInt8} :
    fileAt? place e = some content ↔ kindAt? place e = some (some content) := by
  unfold fileAt? kindAt?
  cases at? place e with
  | none => exact ⟨nofun, nofun⟩
  | some entry => cases entry <;> simp [content?]

theorem IsDirectory.exists_at? (h : e.IsDirectory place) :
    ∃ entries, at? place e = some (directory entries) := by
  obtain ⟨entry, found, same⟩ := Option.map_eq_some_iff.mp h
  cases entry with
  | file content t => cases same
  | directory entries => exact ⟨entries, found⟩

/-- An update that leaves directories alone leaves them, and the files at other places. -/
theorem kindAt?_of_update (spares : ∀ entries new, change (some (directory entries)) ≠ .ok new)
    (updated : update change names e = .ok e') (other : kind ≠ none → place ≠ names)
    (known : kindAt? place e = some kind) : kindAt? place e' = some kind := by
  replace updated := updated_of_update updated
  induction updated generalizing place with
  | @last name entries new changed =>
    cases place with
    | nil => exact known
    | cons first others =>
      rw [kindAt?_cons_directory] at known
      obtain ⟨inside, found, known⟩ := Option.bind_eq_some_iff.mp known
      have different : first ≠ name := by
        rintro rfl
        rw [found] at changed
        cases inside with
        | directory entries => exact spares _ _ changed
        | file _ _ =>
          cases others with
          | nil =>
            cases known
            exact other nofun rfl
          | cons => cases known
      rw [kindAt?_cons_directory, get?_putEntry, if_neg different, found]
      exact known
  | @down name names entries entry entry' there _ ih =>
    cases place with
    | nil => exact known
    | cons first others =>
      rw [kindAt?_cons_directory] at known ⊢
      rw [get?_putEntry]
      split
      case isTrue same =>
        rw [same, there] at known
        exact ih (fun file same' => other file (by rw [same, same'])) known
      case isFalse => exact known

/-- After an update that removes a file there is nothing at its place. -/
theorem kindAt?_of_removed (removes : ∀ old new, change old = .ok new → new = none)
    (updated : update change names e = .ok e') : kindAt? names e' = none := by
  replace updated := updated_of_update updated
  induction updated with
  | last changed =>
    obtain rfl := removes _ _ changed
    simp
  | down _ _ ih =>
    rw [kindAt?_cons_directory, get?_putEntry, if_pos rfl]
    exact ih

/-- Nothing that is there is missed by an update. -/
theorem update_ne_notFound (finds : ∀ entry, change (some entry) ≠ .error .notFound)
    (known : kindAt? names e = some kind) : update change names e ≠ .error .notFound := by
  induction names generalizing e with
  | nil =>
    rw [update]
    intro missing
    cases missing
  | cons name rest ih =>
    cases e with
    | file _ _ =>
      intro missing
      cases rest <;> cases missing
    | directory entries =>
      rw [kindAt?_cons_directory] at known
      obtain ⟨inside, found, known⟩ := Option.bind_eq_some_iff.mp known
      intro missing
      cases rest with
      | nil =>
        rw [update, found] at missing
        split at missing
        · cases missing
        · rcases bind_eq_error.mp missing with missing | ⟨new, -, missing⟩
          · exact finds _ missing
          · cases new <;> cases missing
      | cons next rest =>
        rw [update, found] at missing
        rcases bind_eq_error.mp missing with missing | ⟨new, -, missing⟩
        · exact ih known missing
        · cases missing

/-- Making directories leaves what is there. -/
theorem kindAt?_of_createDirectories (made : createDirectories names e = .ok e')
    (known : kindAt? place e = some kind) : kindAt? place e' = some kind := by
  replace made := made_of_createDirectories made
  induction made generalizing place with
  | done => exact known
  | @down name names entries entry _ _ ih =>
    cases place with
    | nil => exact known
    | cons first others =>
      rw [kindAt?_cons_directory] at known ⊢
      rw [get?_putEntry]
      split
      case isTrue same =>
        obtain ⟨there, found, known⟩ := Option.bind_eq_some_iff.mp known
        rw [same] at found
        rw [found] at ih
        exact ih known
      case isFalse => exact known

/-- Making directories makes them, under names that are not too long. -/
theorem isDirectory_of_createDirectories (made : createDirectories names e = .ok e') :
    e'.IsDirectory names ∧ ∀ name ∈ names, name.utf8ByteSize ≤ maxName := by
  replace made := made_of_createDirectories made
  induction made with
  | done => exact ⟨rfl, nofun⟩
  | down short _ ih =>
    obtain ⟨here, names⟩ := ih
    refine ⟨?_, List.forall_mem_cons.mpr ⟨short, names⟩⟩
    rw [IsDirectory, kindAt?_cons_directory, get?_putEntry, if_pos rfl]
    exact here

/-- Making the directories of one piece of a path after the other. -/
theorem opens_of_made {made : Entry × List String}
    (folded : pieces.foldlM (fun (root, place) segment => do
      let place := Path.follow place segment
      return (← createDirectories place root, place)) (e, place) = .ok made) :
    (∀ p kind, kindAt? p e = some kind → kindAt? p made.1 = some kind) ∧
      (e.IsDirectory place → made.1.Opens place pieces) := by
  induction pieces generalizing e place with
  | nil =>
    cases folded
    exact ⟨fun _ _ => id, id⟩
  | cons segment rest ih =>
    rw [List.foldlM_cons] at folded
    obtain ⟨next, step, folded⟩ := bind_eq_ok.mp folded
    obtain ⟨e', one, same⟩ := bind_eq_ok.mp step
    cases same
    obtain ⟨stays, opens⟩ := ih folded
    obtain ⟨there, short⟩ := isDirectory_of_createDirectories one
    have kept (p kind) (known : kindAt? p e = some kind) : kindAt? p made.1 = some kind :=
      stays p kind (kindAt?_of_createDirectories one known)
    refine ⟨kept, fun here => ⟨kept place none here, ?_, opens there⟩⟩
    by_cases idle : Path.isIdle segment = true
    · exact .inl idle
    · by_cases up : segment = ".."
      · exact .inr (.inl up)
      · refine .inr (.inr (short segment ?_))
        rw [Path.follow, if_neg idle, if_neg up]
        exact List.mem_append_right _ (List.mem_singleton_self _)

/-- Where all directories stay a path can be followed as before. -/
theorem Opens.imp (stays : ∀ place, e.IsDirectory place → e'.IsDirectory place)
    (h : e.Opens place pieces) : e'.Opens place pieces := by
  induction pieces generalizing place with
  | nil => exact stays place h
  | cons segment rest ih => exact ⟨stays place h.1, h.2.1, ih h.2.2⟩

theorem Opens.isDirectory (h : e.Opens place pieces) : e.IsDirectory place := by
  cases pieces with
  | nil => exact h
  | cons segment rest => exact h.1

theorem Opens.last (h : e.Opens place pieces) : e.IsDirectory (pieces.foldl Path.follow place) := by
  induction pieces generalizing place with
  | nil => exact h
  | cons segment rest ih => exact ih h.2.2

theorem opens_append {more : List String} : e.Opens place (pieces ++ more) ↔
    e.Opens place pieces ∧ e.Opens (pieces.foldl Path.follow place) more := by
  induction pieces generalizing place with
  | nil =>
    refine ⟨fun h => ⟨h.isDirectory, h⟩, And.right⟩
  | cons segment rest ih =>
    simp only [List.cons_append, Opens, List.foldl_cons, ih, and_assoc]

theorem walk_cons (above : List Entry) (entries : List (String × Entry)) (segment : String)
    (rest : List String) : Entry.walk above (directory entries) (segment :: rest) =
      if Path.isIdle segment then Entry.walk above (directory entries) rest
      else if segment = ".." then
        match above with
        | [] => Entry.walk [] (directory entries) rest
        | parent :: above => Entry.walk above parent rest
      else if maxName < segment.utf8ByteSize then .error .nameTooLong
      else
        match Bindings.get? segment entries with
        | none => .error .notFound
        | some entry => Entry.walk (directory entries :: above) entry rest := by
  rfl

/-- A path along directories can be followed to its end. -/
theorem Opens.walk {above : List Entry} (more : List String) (h : e.Opens place pieces)
    (below : Below e above entry place) : ∃ above' entries,
      Entry.walk above entry (pieces ++ more) = Entry.walk above' (directory entries) more ∧
        Below e above' (directory entries) (pieces.foldl Path.follow place) := by
  induction pieces generalizing above entry place with
  | nil =>
    obtain ⟨entries, here⟩ := IsDirectory.exists_at? h
    obtain rfl := Option.some.inj (below.at?.symm.trans here)
    exact ⟨above, entries, rfl, below⟩
  | cons segment rest ih =>
    obtain ⟨here, short, later⟩ := h
    obtain ⟨entries, here⟩ := IsDirectory.exists_at? here
    obtain rfl := Option.some.inj (below.at?.symm.trans here)
    rw [List.cons_append, List.foldl_cons, walk_cons]
    rw [Path.follow] at later ⊢
    by_cases idle : Path.isIdle segment = true
    · rw [if_pos idle] at later ⊢
      rw [if_pos idle]
      exact ih later below
    · rw [if_neg idle] at later ⊢
      rw [if_neg idle]
      by_cases up : segment = ".."
      · rw [if_pos up] at later ⊢
        rw [if_pos up]
        cases below with
        | root => exact ih later .root
        | down parent _ =>
          rw [List.dropLast_concat] at later ⊢
          exact ih later parent
      · rw [if_neg up] at later ⊢
        rw [if_neg up, if_neg (by simpa [idle, up] using short)]
        obtain ⟨inner, there⟩ := later.isDirectory.exists_at?
        rw [at?_concat here] at there
        rw [there]
        exact ih later (below.down there)

end Entry

namespace Path

/-- One name, and none that has a meaning of its own in a path. -/
structure IsName (name : String) : Prop where
  noSlash : '/' ∉ name.toList
  notIdle : isIdle name = false
  notUp : name ≠ ".."

variable {name : String}

theorem splitSlash_of_noSlash {cs : List Char} (h : '/' ∉ cs) : splitSlash cs = [cs] := by
  induction cs with
  | nil => rfl
  | cons c rest ih =>
    have here : c ≠ '/' := by
      rintro rfl
      exact h List.mem_cons_self
    rw [splitSlash, if_neg here, ih fun later => h (List.mem_cons_of_mem _ later)]

theorem IsName.isAbsolute (h : IsName name) : Path.isAbsolute name = false := by
  unfold Path.isAbsolute
  cases eq : name.toList with
  | nil => rfl
  | cons c rest =>
    have first : c ≠ '/' := by
      rintro rfl
      exact h.noSlash (by simp [eq])
    simp [first]

theorem IsName.ne_empty (h : IsName name) : name ≠ "" := by
  rintro rfl
  cases h.notIdle

theorem IsName.segments (h : IsName name) : segments name = [name] := by
  simp [Path.segments, splitSlash_of_noSlash h.noSlash]

/-- The pieces of a relative name below a directory are those of the directory, but for an
empty piece at their end, and those of the name. -/
theorem segments_join (relative : isAbsolute name = false) (dir : String) :
    ∃ front, segments (join dir name) = front ++ segments name ∧
      (segments dir = front ∨ segments dir = front ++ [""]) := by
  unfold join
  split
  case isTrue bare =>
    have empty : dir = "" := by simpa [relative] using bare
    subst empty
    exact ⟨[], rfl, .inr rfl⟩
  case isFalse =>
    split
    case isTrue ends =>
      obtain ⟨front, eq⟩ := List.getLast?_eq_some_iff.mp ends
      refine ⟨(splitSlash front).map String.ofList, ?_, .inr ?_⟩
      · rw [segments, String.toList_append, eq, List.append_assoc, List.singleton_append,
          splitSlash_append_slash, List.map_append]
        rfl
      · rw [segments, eq, splitSlash_append_slash, List.map_append]
        rfl
    case isFalse =>
      refine ⟨segments dir, ?_, .inl rfl⟩
      have chars : (dir ++ "/" ++ name).toList = dir.toList ++ '/' :: name.toList := by simp
      rw [segments, chars, splitSlash_append_slash, List.map_append]
      rfl

theorem isAbsolute_join (relative : isAbsolute name = false) (dir : String) :
    isAbsolute (join dir name) = isAbsolute dir := by
  by_cases empty : dir = ""
  · subst empty
    rw [join, if_pos (by simp)]
    exact relative
  · obtain ⟨c, rest, eq⟩ := List.exists_cons_of_ne_nil (mt String.toList_eq_nil_iff.mp empty)
    rw [join, if_neg (by simp [relative, empty])]
    split <;> simp [isAbsolute, eq]

theorem join_ne_empty (nonempty : name ≠ "") (dir : String) : join dir name ≠ "" := by
  unfold join
  split
  case isTrue => exact nonempty
  case isFalse bare =>
    have filled : dir ≠ "" := by
      rintro rfl
      simp at bare
    split <;> simp [filled]

theorem foldl_follow_empty (place front : List String) :
    (front ++ [""]).foldl follow place = front.foldl follow place := by
  rw [List.foldl_append]
  rfl

end Path

namespace FileSystem

variable {fs fs' : FileSystem} {path dir name : String} {place : List String}
  {content bytes : List UInt8}

/-- All pieces of a path lead to directories. -/
def Opens (fs : FileSystem) (path : String) : Prop :=
  fs.root.Opens [] (fs.base path ++ Path.segments path)

/-- The working directory is given by names and is there. -/
structure Grounded (fs : FileSystem) : Prop where
  anchored : fs.Anchored
  working : fs.root.Opens [] fs.working

/-- The working directory is the same one, and no directory is missing. -/
structure KeepsDirectories (fs fs' : FileSystem) : Prop where
  working : fs'.working = fs.working
  directories : ∀ place, fs.root.IsDirectory place → fs'.root.IsDirectory place

theorem KeepsDirectories.trans {fs'' : FileSystem} (h : fs.KeepsDirectories fs')
    (h' : fs'.KeepsDirectories fs'') : fs.KeepsDirectories fs'' :=
  ⟨h'.working.trans h.working, fun place here => h'.directories place (h.directories place here)⟩

theorem KeepsDirectories.base (h : fs.KeepsDirectories fs') (path : String) :
    fs'.base path = fs.base path := by
  rw [FileSystem.base, FileSystem.base, h.working]

theorem KeepsDirectories.names (h : fs.KeepsDirectories fs') (path : String) :
    fs'.names path = fs.names path := by
  rw [FileSystem.names, FileSystem.names, h.base]

theorem Opens.kept (h : fs.Opens path) (keeps : fs.KeepsDirectories fs') : fs'.Opens path := by
  unfold FileSystem.Opens
  rw [keeps.base]
  exact h.imp keeps.directories

theorem Grounded.kept (h : fs.Grounded) (keeps : fs.KeepsDirectories fs') : fs'.Grounded where
  anchored := by
    unfold Anchored
    rw [keeps.working]
    exact h.anchored
  working := by
    rw [keeps.working]
    exact h.working.imp keeps.directories

theorem Anchored.foldl_base (h : fs.Anchored) (path : String) :
    (fs.base path).foldl Path.follow [] = fs.base path := by
  unfold FileSystem.base
  split
  · rfl
  · exact h

/-- A name in a directory is the place of the directory and the name. -/
theorem names_join (h : Path.IsName name) (fs : FileSystem) (dir : String) :
    fs.names (Path.join dir name) = fs.names dir ++ [name] := by
  obtain ⟨front, eq, split⟩ := Path.segments_join h.isAbsolute dir
  rw [h.segments] at eq
  have base : fs.base (Path.join dir name) = fs.base dir := by
    rw [FileSystem.base, FileSystem.base, Path.isAbsolute_join h.isAbsolute]
  have place : fs.names dir = front.foldl Path.follow (fs.base dir) := by
    rcases split with same | same
    · rw [FileSystem.names, same]
    · rw [FileSystem.names, same, Path.foldl_follow_empty]
  rw [place, FileSystem.names, base, eq, List.foldl_append, List.foldl_cons, List.foldl_nil,
    Path.follow, h.notIdle, if_neg Bool.false_ne_true, if_neg h.notUp]

/-- A file in a directory that is there can be found. -/
theorem read_ne_notFound (h : Path.IsName name) (anchored : fs.Anchored) (opens : fs.Opens dir)
    (there : fs.fileAt? (fs.names dir ++ [name]) = some content) :
    fs.read (Path.join dir name) ≠ .error .notFound := by
  obtain ⟨front, eq, split⟩ := Path.segments_join h.isAbsolute dir
  rw [h.segments] at eq
  have base : fs.base (Path.join dir name) = fs.base dir := by
    rw [FileSystem.base, FileSystem.base, Path.isAbsolute_join h.isAbsolute]
  have place : (fs.base dir ++ front).foldl Path.follow [] = fs.names dir := by
    rw [List.foldl_append, anchored.foldl_base, FileSystem.names]
    rcases split with same | same
    · rw [same]
    · rw [same, Path.foldl_follow_empty]
  have opens : fs.root.Opens [] (fs.base dir ++ front) := by
    rcases split with same | same
    · rwa [FileSystem.Opens, same] at opens
    · rw [FileSystem.Opens, same, ← List.append_assoc] at opens
      exact (Entry.opens_append.mp opens).1
  obtain ⟨above, entries, walked, below⟩ := opens.walk [name] .root
  rw [place] at below
  have located : Entry.at? (fs.names dir ++ [name]) fs.root = Bindings.get? name entries :=
    Entry.at?_concat below.at?
  intro missing
  rw [read, find, base, eq, ← List.append_assoc, walked, Entry.walk_cons, h.notIdle,
    if_neg Bool.false_ne_true, if_neg h.notUp] at missing
  have unguarded : guardPath (Path.join dir name) ≠ .error .notFound := by
    unfold guardPath
    rw [if_neg (Path.join_ne_empty h.ne_empty dir)]
    intro missing
    repeat' split at missing
    all_goals cases missing
  rw [FileSystem.fileAt?, Entry.fileAt?, located] at there
  split at there
  case h_2 => cases there
  case h_1 content t found =>
    rw [found] at missing
    rcases bind_eq_error.mp missing with missing | ⟨entry, -, missing⟩
    · rcases bind_eq_error.mp missing with missing | ⟨_, -, missing⟩
      · exact unguarded missing
      · split at missing <;> cases missing
    · cases entry <;> cases missing

theorem keeps_update {change : Option Entry → Except FileFault (Option Entry)}
    (spares : ∀ entries new, change (some (.directory entries)) ≠ .ok new)
    (h : fs.update path change = .ok fs') : fs.KeepsDirectories fs' := by
  obtain ⟨root, updated, rfl⟩ := update_eq_ok h
  exact ⟨rfl, fun place here => Entry.kindAt?_of_update spares updated (absurd rfl) here⟩

theorem fileAt?_update_other {change : Option Entry → Except FileFault (Option Entry)}
    (spares : ∀ entries new, change (some (.directory entries)) ≠ .ok new)
    (puts : ∀ old new, change old = .ok (some new) → ∃ c t, new = .file c t)
    (h : fs.update path change = .ok fs') (other : place ≠ fs.names path) :
    fs'.fileAt? place = fs.fileAt? place := by
  obtain ⟨root, updated, rfl⟩ := update_eq_ok h
  refine Option.ext fun content => ⟨fun known => ?_, fun known => ?_⟩
  · exact (Entry.fileAt?_update puts updated known).resolve_right fun same => other same.1
  · have here := Entry.fileAt?_eq_some.mp known
    exact Entry.fileAt?_eq_some.mpr (Entry.kindAt?_of_update spares updated (fun _ => other) here)

/-- Writing a file leaves the directories and the other files. -/
theorem write_leaves {modified : Timestamp} (h : fs.write path bytes modified = .ok fs') :
    fs.KeepsDirectories fs' ∧ ∀ place, place ≠ fs.names path →
      fs'.fileAt? place = fs.fileAt? place := by
  refine ⟨keeps_update ?_ h, fun place => fileAt?_update_other ?_ ?_ h⟩
  · rintro entries new ⟨⟩
  · rintro entries new ⟨⟩
  · intro old new put
    split at put <;> cases put
    exact ⟨bytes, modified, rfl⟩

/-- Removing a file leaves the directories and the other files. -/
theorem remove_leaves (h : fs.remove path = .ok fs') :
    fs.KeepsDirectories fs' ∧ ∀ place, place ≠ fs.names path →
      fs'.fileAt? place = fs.fileAt? place := by
  refine ⟨keeps_update ?_ h, fun place => fileAt?_update_other ?_ ?_ h⟩
  · rintro entries new ⟨⟩
  · rintro entries new ⟨⟩
  · intro old new put
    split at put <;> cases put

theorem fileAt?_of_remove (h : fs.remove path = .ok fs') : fs'.fileAt? (fs.names path) = none := by
  obtain ⟨root, updated, rfl⟩ := update_eq_ok h
  have gone : Entry.kindAt? (fs.names path) root = none := by
    refine Entry.kindAt?_of_removed ?_ updated
    intro old new removed
    split at removed <;> cases removed
    rfl
  cases known : FileSystem.fileAt? { fs with root := root } (fs.names path) with
  | none => rfl
  | some content => cases gone.symm.trans (Entry.fileAt?_eq_some.mp known)

/-- A file that is there does not fail to be removed for being absent. -/
theorem fileAt?_of_remove_notFound (h : fs.remove path = .error .notFound) (nonempty : path ≠ "") :
    fs.fileAt? (fs.names path) = none := by
  cases known : fs.fileAt? (fs.names path) with
  | none => rfl
  | some content =>
    rcases bind_eq_error.mp h with missing | ⟨_, -, missing⟩
    · unfold guardPath at missing
      rw [if_neg nonempty] at missing
      split at missing
      · cases missing
      · split at missing <;> cases missing
    · rcases bind_eq_error.mp missing with missing | ⟨_, -, missing⟩
      · refine absurd missing (Entry.update_ne_notFound ?_ (Entry.fileAt?_eq_some.mp known))
        rintro (_ | _) <;> exact nofun
      · cases missing

/-- Making the directories of a path leaves what is there, and the path can be followed. -/
theorem createDirectories_leaves (h : fs.createDirectories path = .ok fs') :
    fs.KeepsDirectories fs' ∧ (∀ place, fs'.fileAt? place = fs.fileAt? place) ∧
      (fs.Grounded → fs'.Opens path) := by
  obtain ⟨root, rfl, back⟩ := createDirectories_eq_ok h
  obtain ⟨-, -, rest⟩ := bind_eq_ok.mp h
  obtain ⟨made, folded, same⟩ := bind_eq_ok.mp rest
  obtain rfl : made.1 = root := congrArg FileSystem.root (Except.ok.inj same)
  obtain ⟨stays, opens⟩ := Entry.opens_of_made folded
  refine ⟨⟨rfl, fun place here => stays place none here⟩, fun place => ?_, fun grounded => ?_⟩
  · refine Option.ext fun content => ⟨back place content, fun known => ?_⟩
    exact Entry.fileAt?_eq_some.mpr (stays place _ (Entry.fileAt?_eq_some.mp known))
  · have base : fs.root.Opens [] (fs.base path) := by
      unfold FileSystem.base
      split
      · exact grounded.working.isDirectory
      · exact grounded.working
    have ends := base.last
    rw [grounded.anchored.foldl_base] at ends
    refine Entry.opens_append.mpr ⟨base.imp fun place here => stays place none here, ?_⟩
    change made.1.Opens ((fs.base path).foldl Path.follow []) (Path.segments path)
    rw [grounded.anchored.foldl_base]
    exact opens ends

end FileSystem
end TemplateEngine
