import TemplateEngine.FileSystem.Basic
import TemplateEngine.Proofs.Except

/-!
# Files by their places

A place is a list of names that lead down from the root. A path that can be read
names the place of a file: following it piece by piece, also upwards, ends where
its names lead. So what an operation changes can be said by places.
-/

namespace TemplateEngine

namespace Entry

/-- The entry that some names lead to. -/
def at? : List String → Entry → Option Entry
  | [], here => some here
  | _ :: _, file _ _ => none
  | name :: rest, directory entries =>
    match Bindings.get? name entries with
    | none => none
    | some entry => at? rest entry

/-- The content of the file that some names lead to. -/
def fileAt? (place : List String) (e : Entry) : Option (List UInt8) :=
  match at? place e with
  | some (file content _) => some content
  | _ => none

@[simp] theorem at?_nil (e : Entry) : at? [] e = some e := by
  cases e <;> rfl

theorem at?_concat {place : List String} {e : Entry} {entries : List (String × Entry)} {name : String}
    (h : at? place e = some (directory entries)) :
    at? (place ++ [name]) e = Bindings.get? name entries := by
  induction place generalizing e with
  | nil =>
    rw [at?_nil] at h
    cases h
    rw [List.nil_append, at?]
    cases Bindings.get? name entries <;> simp
  | cons first rest ih =>
    cases e with
    | file _ _ => cases h
    | directory others =>
      rw [at?] at h
      rw [List.cons_append, at?]
      cases found : Bindings.get? first others with
      | none => simp [found] at h
      | some entry =>
        rw [found] at h
        exact ih h

@[simp] theorem fileAt?_nil_directory (entries : List (String × Entry)) :
    fileAt? [] (directory entries) = none := by
  simp [fileAt?]

@[simp] theorem fileAt?_cons_directory (name : String) (rest : List String)
    (entries : List (String × Entry)) :
    fileAt? (name :: rest) (directory entries)
      = (Bindings.get? name entries).bind (fileAt? rest) := by
  cases found : Bindings.get? name entries <;> simp [fileAt?, at?, found]

theorem fileAt?_file {place : List String} {old content : List UInt8} {t : Timestamp}
    (h : fileAt? place (file old t) = some content) : place = [] ∧ content = old := by
  cases place with
  | nil =>
    cases h
    exact ⟨rfl, rfl⟩
  | cons name rest => cases h

/-- The directories around an entry, innermost first, at the end of a way down. -/
inductive Below (root : Entry) : List Entry → Entry → List String → Prop
  | root : Below root [] root []
  | down {above entries place name entry} : Below root above (directory entries) place →
      Bindings.get? name entries = some entry →
      Below root (directory entries :: above) entry (place ++ [name])

variable {root here found e e' : Entry} {above : List Entry} {place path names : List String}
  {content : List UInt8}

theorem Below.at? (h : Below root above here place) : Entry.at? place root = some here := by
  induction h with
  | root => exact at?_nil root
  | down _ entry ih => rw [at?_concat ih, entry]

/-- Walking a path from a place ends at the place that its pieces lead to. -/
theorem Below.walk (h : Below root above here place) (walked : Entry.walk above here path = .ok found) :
    Entry.at? (path.foldl Path.follow place) root = some found := by
  induction path generalizing above here place with
  | nil =>
    have same : here = found := by
      cases here <;> exact Except.ok.inj walked
    exact same ▸ h.at?
  | cons segment rest ih =>
    cases here with
    | file _ _ => cases walked
    | directory entries =>
      unfold Entry.walk at walked
      rw [List.foldl_cons, Path.follow]
      split at walked
      case isTrue idle =>
        rw [if_pos idle]
        exact ih h walked
      case isFalse moving =>
        rw [if_neg moving]
        split at walked
        case isTrue up =>
          rw [if_pos up]
          cases h with
          | root => exact ih .root walked
          | down parent _ =>
            rw [List.dropLast_concat]
            exact ih parent walked
        case isFalse down =>
          rw [if_neg down]
          split at walked
          · cases walked
          · split at walked
            · cases walked
            case h_2 entry known => exact ih (h.down known) walked

/-- The entries with that of a name put in or taken away. -/
def putEntry (name : String) (new : Option Entry) (entries : List (String × Entry)) :
    List (String × Entry) :=
  match new with
  | some entry => Bindings.insert name entry entries
  | none => Bindings.erase name entries

@[simp] theorem get?_putEntry (name other : String) (new : Option Entry)
    (entries : List (String × Entry)) :
    Bindings.get? other (putEntry name new entries)
      = if other = name then new else Bindings.get? other entries := by
  cases new with
  | none => exact Bindings.get?_erase name other entries
  | some entry => exact Bindings.get?_insert name other entry entries

/-- An update goes down along the names and changes the entry of the last one. -/
inductive Updated (change : Option Entry → Except FileFault (Option Entry)) :
    List String → Entry → Entry → Prop
  | last {name entries new} : change (Bindings.get? name entries) = .ok new →
      Updated change [name] (directory entries) (directory (putEntry name new entries))
  | down {name names entries entry entry'} : Bindings.get? name entries = some entry →
      Updated change names entry entry' →
      Updated change (name :: names) (directory entries)
        (directory (putEntry name (some entry') entries))

/-- Directories are made along the names, where there are none. -/
inductive Made : List String → Entry → Entry → Prop
  | done {entries} : Made [] (directory entries) (directory entries)
  | down {name names entries entry} : name.utf8ByteSize ≤ maxName →
      Made names ((Bindings.get? name entries).getD (directory [])) entry →
      Made (name :: names) (directory entries) (directory (putEntry name (some entry) entries))

section

variable {change : Option Entry → Except FileFault (Option Entry)}

theorem updated_of_update (updated : update change names e = .ok e') : Updated change names e e' := by
  induction names generalizing e e' with
  | nil => cases updated
  | cons name rest ih =>
    cases e with
    | file _ _ => cases rest <;> cases updated
    | directory entries =>
      cases rest with
      | nil =>
        rw [update] at updated
        split at updated
        · cases updated
        · obtain ⟨new, changed, same⟩ := bind_eq_ok.mp updated
          cases new <;> cases same <;> exact .last changed
      | cons next rest =>
        rw [update] at updated
        split at updated
        · cases updated
        case h_2 entry inside =>
          obtain ⟨entry', deeper, same⟩ := bind_eq_ok.mp updated
          cases same
          exact .down inside (ih deeper)

theorem made_of_createDirectories (made : createDirectories names e = .ok e') : Made names e e' := by
  induction names generalizing e e' with
  | nil =>
    cases e with
    | file _ _ => cases made
    | directory entries =>
      cases made
      exact .done
  | cons name rest ih =>
    cases e with
    | file _ _ => cases made
    | directory entries =>
      rw [createDirectories] at made
      split at made
      · cases made
      case isFalse short =>
        obtain ⟨entry, deeper, same⟩ := bind_eq_ok.mp made
        cases same
        exact .down (Nat.le_of_not_lt short) (ih deeper)

/-- After an update files are where they were, but for a file that it puts. -/
theorem fileAt?_update (puts : ∀ old new, change old = .ok (some new) → ∃ c t, new = file c t)
    (updated : update change names e = .ok e') (known : fileAt? place e' = some content) :
    fileAt? place e = some content ∨
      place = names ∧ ∃ old t, change old = .ok (some (file content t)) := by
  replace updated := updated_of_update updated
  induction updated generalizing place with
  | @last name entries new changed =>
    cases place with
    | nil => simp at known
    | cons first others =>
      rw [fileAt?_cons_directory, get?_putEntry] at known
      split at known
      case isTrue same =>
        obtain ⟨entry, rfl, there⟩ := Option.bind_eq_some_iff.mp known
        obtain ⟨c, t, rfl⟩ := puts _ _ changed
        obtain ⟨rfl, rfl⟩ := fileAt?_file there
        exact .inr ⟨by rw [same], _, t, changed⟩
      case isFalse =>
        rw [fileAt?_cons_directory]
        exact .inl known
  | @down name names entries entry entry' inside _ ih =>
    cases place with
    | nil => simp at known
    | cons first others =>
      rw [fileAt?_cons_directory, get?_putEntry] at known
      rw [fileAt?_cons_directory]
      split at known
      case isTrue same =>
        rw [same, inside]
        refine (ih known).imp_right ?_
        rintro ⟨rfl, put⟩
        exact ⟨rfl, put⟩
      case isFalse => exact .inl known

/-- After an update that puts a file the file is there. -/
theorem fileAt?_of_update
    (puts : ∀ old new, change old = .ok new → ∃ t, new = some (file content t))
    (updated : update change names e = .ok e') : fileAt? names e' = some content := by
  replace updated := updated_of_update updated
  induction updated with
  | last changed =>
    obtain ⟨t, rfl⟩ := puts _ _ changed
    rw [fileAt?_cons_directory, get?_putEntry, if_pos rfl]
    rfl
  | down _ _ ih =>
    rw [fileAt?_cons_directory, get?_putEntry, if_pos rfl]
    exact ih

end

/-- Making directories puts no file and moves none. -/
theorem fileAt?_createDirectories (made : createDirectories names e = .ok e')
    (known : fileAt? place e' = some content) : fileAt? place e = some content := by
  replace made := made_of_createDirectories made
  induction made generalizing place with
  | done => exact known
  | @down name names entries entry _ _ ih =>
    cases place with
    | nil => simp at known
    | cons first others =>
      rw [fileAt?_cons_directory, get?_putEntry] at known
      rw [fileAt?_cons_directory]
      split at known
      case isFalse => exact known
      case isTrue same =>
        have inner := ih known
        rw [same]
        cases inside : Bindings.get? name entries with
        | some old => simpa [inside] using inner
        | none =>
          rw [inside] at inner
          cases others <;> simp [Bindings.get?] at inner

end Entry

namespace FileSystem

variable {fs fs' : FileSystem} {path : String} {place : List String} {content bytes : List UInt8}

/-- The content of the file at a place. -/
def fileAt? (fs : FileSystem) (place : List String) : Option (List UInt8) := fs.root.fileAt? place

/-- The working directory is given by names only. -/
def Anchored (fs : FileSystem) : Prop := fs.working.foldl Path.follow [] = fs.working

theorem fileAt?_empty (place : List String) : empty.fileAt? place = none := by
  rcases place with _ | ⟨name, _ | ⟨next, rest⟩⟩
  · rfl
  · rw [fileAt?, empty, Entry.fileAt?_cons_directory, Bindings.get?]
    split <;> rfl
  · rw [fileAt?, empty, Entry.fileAt?_cons_directory, Bindings.get?]
    split <;> rfl

theorem fileAt?_of_read (anchored : fs.Anchored) (h : fs.read path = .ok bytes) :
    fs.fileAt? (fs.names path) = some bytes := by
  obtain ⟨entry, opened, content⟩ := bind_eq_ok.mp h
  obtain ⟨-, -, walked⟩ := bind_eq_ok.mp opened
  have located := Entry.Below.root.walk walked
  have base : (fs.base path).foldl Path.follow [] = fs.base path := by
    unfold FileSystem.base
    split
    · rfl
    · exact anchored
  rw [List.foldl_append, base] at located
  cases entry with
  | directory entries => cases content
  | file c t =>
    cases content
    rw [fileAt?, Entry.fileAt?, names, located]

theorem update_eq_ok {change : Option Entry → Except FileFault (Option Entry)}
    (h : fs.update path change = .ok fs') :
    ∃ root, fs.root.update change (fs.names path) = .ok root ∧ fs' = { fs with root := root } := by
  obtain ⟨-, -, rest⟩ := bind_eq_ok.mp h
  obtain ⟨root, updated, same⟩ := bind_eq_ok.mp rest
  cases same
  exact ⟨root, updated, rfl⟩

/-- Only the file at the path is new after writing. -/
theorem fileAt?_write {modified : Timestamp} (h : fs.write path bytes modified = .ok fs')
    (known : fs'.fileAt? place = some content) :
    fs.fileAt? place = some content ∨ place = fs.names path ∧ content = bytes := by
  obtain ⟨root, updated, rfl⟩ := update_eq_ok h
  refine (Entry.fileAt?_update ?_ updated known).imp_right ?_
  · intro old new put
    split at put <;> cases put
    exact ⟨bytes, modified, rfl⟩
  · rintro ⟨rfl, old, t, put⟩
    split at put <;> cases put
    exact ⟨rfl, rfl⟩

theorem fileAt?_of_write {modified : Timestamp} (h : fs.write path bytes modified = .ok fs') :
    fs'.fileAt? (fs.names path) = some bytes := by
  obtain ⟨root, updated, rfl⟩ := update_eq_ok h
  refine Entry.fileAt?_of_update ?_ updated
  intro old new put
  split at put <;> cases put
  exact ⟨modified, rfl⟩

theorem working_write {modified : Timestamp} (h : fs.write path bytes modified = .ok fs') :
    fs'.working = fs.working := by
  obtain ⟨root, -, rfl⟩ := update_eq_ok h
  rfl

theorem fileAt?_remove (h : fs.remove path = .ok fs') (known : fs'.fileAt? place = some content) :
    fs.fileAt? place = some content := by
  obtain ⟨root, updated, rfl⟩ := update_eq_ok h
  apply (Entry.fileAt?_update _ updated known).resolve_right
  · rintro ⟨-, old, t, put⟩
    split at put <;> cases put
  · intro old new put
    split at put <;> cases put

theorem working_remove (h : fs.remove path = .ok fs') : fs'.working = fs.working := by
  obtain ⟨root, -, rfl⟩ := update_eq_ok h
  rfl

theorem createDirectories_eq_ok (h : fs.createDirectories path = .ok fs') :
    ∃ root, fs' = { fs with root := root } ∧
      ∀ place content, root.fileAt? place = some content → fs.fileAt? place = some content := by
  obtain ⟨-, -, rest⟩ := bind_eq_ok.mp h
  obtain ⟨made, folded, same⟩ := bind_eq_ok.mp rest
  cases same
  refine ⟨_, rfl, ?_⟩
  unfold FileSystem.fileAt?
  generalize fs.base path = first at folded
  generalize fs.root = root at folded
  generalize Path.segments path = segments at folded
  induction segments generalizing root first with
  | nil =>
    cases folded
    intro _ _ known
    exact known
  | cons segment rest ih =>
    rw [List.foldlM_cons] at folded
    obtain ⟨next, step, folded⟩ := bind_eq_ok.mp folded
    obtain ⟨root', made, same⟩ := bind_eq_ok.mp step
    cases same
    intro place content known
    exact Entry.fileAt?_createDirectories made (ih _ _ folded place content known)

end FileSystem
end TemplateEngine
