import TemplateEngine.Proofs.FileSystem.Stays

/-!
# What a path leads to

A path is followed piece by piece through the tree: a name leads from a directory to the
entry of that name, `..` to the directory around it, and an idle piece nowhere else. It comes
to an end at an entry, at a name that is not there, at a name that is too long, or at a file
that has pieces behind it. Looking a path up finds out which.
-/

namespace TemplateEngine

/-- A piece of a path that leads to an entry of its name. -/
structure Path.LeadsDown (segment : String) : Prop where
  moves : Path.isIdle segment = false
  notUp : segment ≠ ".."

namespace Entry

/-- Following the pieces from the root of the tree leads to a place and what is there. -/
inductive Leads (root : Entry) : List String → List String → Entry → Prop
  | start : Leads root [] [] root
  | idle {pieces place entries segment} : Leads root pieces place (directory entries) →
      Path.isIdle segment = true → Leads root (pieces ++ [segment]) place (directory entries)
  | up {pieces place entries parent} : Leads root pieces place (directory entries) →
      root.at? place.dropLast = some parent →
      Leads root (pieces ++ [".."]) place.dropLast parent
  | down {pieces place entries segment entry} : Leads root pieces place (directory entries) →
      Path.LeadsDown segment → segment.utf8ByteSize ≤ maxName →
      Bindings.get? segment entries = some entry →
      Leads root (pieces ++ [segment]) (place ++ [segment]) entry

/-- Behind directories the pieces come to a name that the last of them has no entry of. -/
def Misses (root : Entry) (pieces : List String) : Prop :=
  ∃ before segment after place entries, pieces = before ++ segment :: after ∧
    root.Leads before place (directory entries) ∧ Path.LeadsDown segment ∧
    segment.utf8ByteSize ≤ maxName ∧ Bindings.get? segment entries = none

/-- The pieces come to a file, and it is not their end. -/
def RunsThroughFile (root : Entry) (pieces : List String) : Prop :=
  ∃ before segment after place content modified, pieces = before ++ segment :: after ∧
    root.Leads before place (file content modified)

/-- Behind directories the pieces come to a name that is longer than names are. -/
def Overlong (root : Entry) (pieces : List String) : Prop :=
  ∃ before segment after place entries, pieces = before ++ segment :: after ∧
    root.Leads before place (directory entries) ∧ Path.LeadsDown segment ∧
    maxName < segment.utf8ByteSize

/-- How following the pieces of a path ends. -/
inductive Finding (root : Entry) (pieces : List String) : Except FileFault Entry → Prop
  | found {place entry} : root.Leads pieces place entry → Finding root pieces (.ok entry)
  | missing : root.Misses pieces → Finding root pieces (.error .notFound)
  | blocked : root.RunsThroughFile pieces → Finding root pieces (.error .notDirectory)
  | overlong : root.Overlong pieces → Finding root pieces (.error .nameTooLong)

variable {root here entry : Entry} {above : List Entry} {entries : List (String × Entry)}
  {pieces place more : List String} {segment : String}

theorem walk_idle (idle : Path.isIdle segment = true) :
    walk above (directory entries) (segment :: more) = walk above (directory entries) more := by
  rw [walk_cons, if_pos idle]

/-- Upwards from a directory is the directory around it, and the root itself from the root. -/
theorem Below.walk_up (h : Below root above (directory entries) place) :
    ∃ above' parent, Below root above' parent place.dropLast ∧ ∀ more,
      Entry.walk above (directory entries) (".." :: more) = Entry.walk above' parent more := by
  cases h with
  | root => exact ⟨[], _, .root, fun _ => rfl⟩
  | down parent _ =>
    rw [List.dropLast_concat]
    exact ⟨_, _, parent, fun _ => rfl⟩

/-- At a name a walk goes on with the entry of that name, if there is one and the name is
short enough. -/
theorem walk_name (down : Path.LeadsDown segment) :
    walk above (directory entries) (segment :: more) =
      if maxName < segment.utf8ByteSize then .error .nameTooLong
      else match Bindings.get? segment entries with
        | none => .error .notFound
        | some entry => walk (directory entries :: above) entry more := by
  rewrite [walk_cons, if_neg (by simp [down.moves]), if_neg down.notUp]
  rfl

/-- What was followed can be left out of a walk. -/
theorem Leads.exists_walk (h : root.Leads pieces place here) : ∃ above, Below root above here place ∧
    ∀ more, walk [] root (pieces ++ more) = walk above here more := by
  induction h with
  | start => exact ⟨[], .root, fun _ => rfl⟩
  | idle _ idle ih =>
    obtain ⟨above, below, same⟩ := ih
    refine ⟨above, below, fun more => ?_⟩
    rw [List.append_assoc, List.singleton_append, same, walk_idle idle]
  | up _ around ih =>
    obtain ⟨above, below, same⟩ := ih
    obtain ⟨above', parent, outer, goes⟩ := below.walk_up
    obtain rfl := Option.some.inj (outer.at?.symm.trans around)
    refine ⟨above', outer, fun more => ?_⟩
    rw [List.append_assoc, List.singleton_append, same, goes]
  | down _ down short there ih =>
    obtain ⟨above, below, same⟩ := ih
    refine ⟨_, below.down there, fun more => ?_⟩
    rw [List.append_assoc, List.singleton_append, same, walk_name down,
      if_neg (Nat.not_lt.mpr short), there]

/-- A walk ends as following its pieces does. -/
theorem Finding.walk {r : Except FileFault Entry} (h : root.Finding pieces r) :
    Entry.walk [] root pieces = r := by
  cases h with
  | @found _ entry leads =>
    obtain ⟨above, -, same⟩ := leads.exists_walk
    rw [← List.append_nil pieces, same]
    cases entry <;> rfl
  | missing missing =>
    obtain ⟨before, segment, after, place, entries, rfl, leads, down, short, none⟩ := missing
    obtain ⟨above, -, same⟩ := leads.exists_walk
    rw [same, walk_name down, if_neg (Nat.not_lt.mpr short), none]
  | blocked blocked =>
    obtain ⟨before, segment, after, place, content, modified, rfl, leads⟩ := blocked
    obtain ⟨above, -, same⟩ := leads.exists_walk
    rw [same]
    rfl
  | overlong overlong =>
    obtain ⟨before, segment, after, place, entries, rfl, leads, down, long⟩ := overlong
    obtain ⟨above, -, same⟩ := leads.exists_walk
    rw [same, walk_name down, if_pos long]

/-- From wherever following has come to, the walk finds how it ends. -/
theorem finding_of_leads (leads : root.Leads pieces place here) (below : Below root above here place) :
    root.Finding (pieces ++ more) (walk above here more) := by
  induction more generalizing pieces above here place with
  | nil =>
    have stays : walk above here [] = .ok here := by cases here <;> rfl
    rw [List.append_nil, stays]
    exact .found leads
  | cons segment rest ih =>
    cases here with
    | file => exact .blocked ⟨_, _, _, _, _, _, rfl, leads⟩
    | directory entries =>
      have split : pieces ++ segment :: rest = pieces ++ [segment] ++ rest := by simp
      by_cases idle : Path.isIdle segment = true
      · rw [walk_idle idle, split]
        exact ih (leads.idle idle) below
      · by_cases up : segment = ".."
        · subst up
          obtain ⟨above', parent, outer, goes⟩ := below.walk_up
          rw [goes, split]
          exact ih (leads.up outer.at?) outer
        · have down : Path.LeadsDown segment := ⟨by simpa using idle, up⟩
          rw [walk_name down]
          split
          case isTrue long => exact .overlong ⟨_, _, _, _, _, rfl, leads, down, long⟩
          case isFalse short =>
            have short := Nat.le_of_not_lt short
            cases there : Bindings.get? segment entries with
            | none => exact .missing ⟨_, _, _, _, _, rfl, leads, down, short, there⟩
            | some entry =>
              rw [split]
              exact ih (leads.down down short there) (below.down there)

theorem walk_eq_iff {r : Except FileFault Entry} :
    walk [] root pieces = r ↔ root.Finding pieces r := by
  refine ⟨?_, Finding.walk⟩
  rintro rfl
  exact finding_of_leads .start .root

/-- A path with an idle piece at its end leads to a directory only. -/
theorem Leads.isDirectory {last : String} (h : root.Leads (pieces ++ [last]) place entry)
    (idle : Path.isIdle last = true) : ∃ entries, entry = directory entries := by
  generalize eq : pieces ++ [last] = all at h
  cases h with
  | start => cases pieces <;> cases eq
  | idle => exact ⟨_, rfl⟩
  | up =>
    obtain ⟨-, same⟩ := List.append_inj' eq rfl
    cases same
    cases idle
  | down _ down =>
    obtain ⟨-, same⟩ := List.append_inj' eq rfl
    cases same
    cases idle.symm.trans down.moves

end Entry

namespace FileSystem

variable (fs : FileSystem)

/-- The pieces that a path is followed by from the root. -/
def pieces (path : String) : List String := fs.base path ++ Path.segments path

/-- The path leads to the entry. -/
def Holds (path : String) (entry : Entry) : Prop :=
  guardPath path = .ok () ∧ ∃ place, fs.root.Leads (fs.pieces path) place entry

/-- Nothing is at the path. -/
def Misses (path : String) : Prop := guardPath path = .ok () ∧ fs.root.Misses (fs.pieces path)

/-- The path runs through a file. -/
def RunsThroughFile (path : String) : Prop :=
  guardPath path = .ok () ∧ fs.root.RunsThroughFile (fs.pieces path)

variable {fs} {path : String}

theorem find_eq {r : Except FileFault Entry} (allowed : guardPath path = .ok ()) :
    fs.find path = r ↔ fs.root.Finding (fs.pieces path) r := by
  rw [← Entry.walk_eq_iff, find, allowed]
  rfl

theorem find_eq_ok_iff {entry : Entry} : fs.find path = .ok entry ↔ fs.Holds path entry := by
  constructor
  · intro found
    obtain ⟨⟨⟩, allowed, -⟩ := bind_eq_ok.mp found
    obtain ⟨leads⟩ := (find_eq allowed).mp found
    exact ⟨allowed, _, leads⟩
  · rintro ⟨allowed, place, leads⟩
    exact (find_eq allowed).mpr (.found leads)

/-- The system took a path that it did not refuse for its characters or its length. -/
theorem guardPath_of_find {fault : FileFault} (nonempty : path ≠ "")
    (failed : fs.find path = .error fault) (characters : fault ≠ .nulInName)
    (length : fault ≠ .nameTooLong) : guardPath path = .ok () := by
  rcases bind_eq_error.mp failed with refused | ⟨⟨⟩, allowed, -⟩
  · unfold guardPath at refused
    rw [if_neg nonempty] at refused
    split at refused
    · cases refused
      exact absurd rfl characters
    · split at refused
      · cases refused
        exact absurd rfl length
      · cases refused
  · exact allowed

theorem find_eq_notFound_iff (nonempty : path ≠ "") :
    fs.find path = .error .notFound ↔ fs.Misses path := by
  constructor
  · intro failed
    have allowed := guardPath_of_find nonempty failed nofun nofun
    cases (find_eq allowed).mp failed with
    | missing missing => exact ⟨allowed, missing⟩
  · rintro ⟨allowed, missing⟩
    exact (find_eq allowed).mpr (.missing missing)

theorem find_eq_notDirectory_iff (nonempty : path ≠ "") :
    fs.find path = .error .notDirectory ↔ fs.RunsThroughFile path := by
  constructor
  · intro failed
    have allowed := guardPath_of_find nonempty failed nofun nofun
    cases (find_eq allowed).mp failed with
    | blocked blocked => exact ⟨allowed, blocked⟩
  · rintro ⟨allowed, blocked⟩
    exact (find_eq allowed).mpr (.blocked blocked)

end FileSystem
end TemplateEngine
