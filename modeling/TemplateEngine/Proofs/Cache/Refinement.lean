import Mathlib.Logic.Function.Basic
import TemplateEngine.Proofs.Cache.RoundTrip
import TemplateEngine.Proofs.FileSystem.Stays

/-!
# Caches as plain maps

A cache in memory, one in the files of a directory and a memory in front of the files
answer a sequence of requests in the same way: like a map from names to what was stored
last and not invalidated since. The memory in front of the files may be lost between any
two requests. For the files this rests on digests that differ for the names in use, and
on nobody else changing the directory.
-/

namespace TemplateEngine

namespace Digest

theorem digitChar_injective : ∀ m < 16, ∀ n < 16, Nat.digitChar m = Nat.digitChar n → m = n := by
  decide

theorem digitChar_ne_slash : ∀ n < 16, Nat.digitChar n ≠ '/' := by
  decide

theorem hexByte_injective {a b : UInt8} (h : hexByte a = hexByte b) : a = b := by
  have small (c : UInt8) : c.toNat / 16 < 16 ∧ c.toNat % 16 < 16 := by
    have := c.toNat_lt
    omega
  simp only [hexByte, List.cons.injEq, and_true] at h
  have high := digitChar_injective _ (small a).1 _ (small b).1 h.1
  have low := digitChar_injective _ (small a).2 _ (small b).2 h.2
  apply UInt8.toNat_inj.mp
  omega

theorem hexDigits_injective : Function.Injective (List.flatMap hexByte) := by
  intro xs ys h
  induction xs generalizing ys with
  | nil =>
    cases ys with
    | nil => rfl
    | cons y ys => cases h
  | cons x xs ih =>
    cases ys with
    | nil => cases h
    | cons y ys =>
      obtain ⟨first, rest⟩ := List.append_inj h rfl
      rw [hexByte_injective first, ih rest]

theorem noSlash_hex (bytes : List UInt8) : '/' ∉ (hex bytes).toList := by
  rw [hex, String.toList_ofList, List.mem_flatMap]
  rintro ⟨b, -, member⟩
  have := b.toNat_lt
  rcases List.mem_cons.mp member with same | member
  · exact digitChar_ne_slash _ (by omega) same.symm
  · exact digitChar_ne_slash _ (by omega) (List.mem_singleton.mp member).symm

end Digest

namespace Cache

theorem isName_fileName (name : String) : Path.IsName (fileName name) := by
  have long : 4 ≤ (fileName name).length := by
    rw [fileName, String.length_append]
    exact Nat.le_add_left 4 _
  refine ⟨?_, ?_, ?_⟩
  · rw [fileName, String.toList_append, List.mem_append]
    rintro (member | member)
    · exact Digest.noSlash_hex _ member
    · revert member
      decide
  · cases idle : Path.isIdle (fileName name) with
    | false => rfl
    | true =>
      simp only [Path.isIdle, Bool.or_eq_true, beq_iff_eq] at idle
      rcases idle with same | same <;> rw [same] at long <;> revert long <;> decide
  · intro same
    rw [same] at long
    revert long
    decide

/-- The SHA-256 digest of a name. -/
def digestOf (name : String) : List UInt8 := Digest.sha256 name.toUTF8.toList

theorem digestOf_of_fileName {a b : String} (h : fileName a = fileName b) : digestOf a = digestOf b := by
  have chars := congrArg String.toList h
  rw [fileName, fileName, String.toList_append, String.toList_append] at chars
  have hex := List.append_cancel_right chars
  rw [Digest.ofText, Digest.ofText, Digest.hex, Digest.hex, String.toList_ofList,
    String.toList_ofList] at hex
  exact Digest.hexDigits_injective hex

inductive Request where
  | lookup (name : String)
  | store (entry : CacheEntry)
  | invalidate (name : String)

/-- What is known under each name, up to the identity of the program. -/
abbrev Known := String → Option CacheFile.Stored

namespace Request

def name : Request → String
  | lookup name | invalidate name => name
  | store entry => entry.name

/-- What a plain map holds after a request. -/
def update (known : Known) : Request → Known
  | lookup _ => known
  | store entry => Function.update known entry.name (some entry.stored)
  | invalidate name => Function.update known name none

/-- The entry of a store has a valid program and can be written to a file. -/
def Sound : Request → Prop
  | store entry => entry.stored.Fits ∧ entry.loaded.program.isValid = true
  | _ => True

end Request

/-- What a plain map answers to the lookups among some requests. -/
def plainAnswers : Known → List Request → List (Option CacheFile.Stored)
  | _, [] => []
  | known, .lookup name :: rest => known name :: plainAnswers known rest
  | known, request :: rest => plainAnswers (request.update known) rest

/-- The requests all succeed and the lookups among them have these answers, up to the
identity of the program; between any two requests the storage may change. -/
inductive Answers (c : Cache) (change : Storage → Storage → Prop) :
    Storage → List Request → List (Option CacheFile.Stored) → Prop
  | done {s} : Answers c change s [] []
  | change {s s' requests answers} : change s s' → Answers c change s' requests answers →
      Answers c change s requests answers
  | lookup {s s' name found requests answers} : c.lookup name s = (.ok found, s') →
      Answers c change s' requests answers →
      Answers c change s (.lookup name :: requests) (found.map CacheEntry.stored :: answers)
  | store {s s' entry requests answers} : c.store entry s = (.ok (), s') →
      Answers c change s' requests answers → Answers c change s (.store entry :: requests) answers
  | invalidate {s s' name requests answers} : c.invalidate name s = (.ok (), s') →
      Answers c change s' requests answers → Answers c change s (.invalidate name :: requests) answers

/-- What holds of a plain map and a storage is kept by requests of some kind, and lookups
then give what the map has. -/
structure Simulates (c : Cache) (change : Storage → Storage → Prop) (kind : Request → Prop)
    (holds : Known → Storage → Prop) : Prop where
  change : ∀ {known s s'}, holds known s → change s s' → holds known s'
  lookup : ∀ {known s name found s'}, kind (.lookup name) → holds known s →
    c.lookup name s = (.ok found, s') →
    found.map CacheEntry.stored = known name ∧ holds known s'
  store : ∀ {known s entry s'}, kind (.store entry) → holds known s →
    c.store entry s = (.ok (), s') → holds ((Request.store entry).update known) s'
  invalidate : ∀ {known s name s'}, kind (.invalidate name) → holds known s →
    c.invalidate name s = (.ok (), s') → holds ((Request.invalidate name).update known) s'

theorem Simulates.answers {c : Cache} {change : Storage → Storage → Prop} {kind : Request → Prop}
    {holds : Known → Storage → Prop} (h : c.Simulates change kind holds) {known : Known} {s : Storage}
    {requests : List Request} {answers : List (Option CacheFile.Stored)} (start : holds known s)
    (kinds : ∀ r ∈ requests, kind r) (given : Answers c change s requests answers) :
    answers = plainAnswers known requests := by
  induction given generalizing known with
  | done => rfl
  | change changed _ ih => exact ih (h.change start changed) kinds
  | lookup found _ ih =>
    obtain ⟨this, others⟩ := List.forall_mem_cons.mp kinds
    obtain ⟨same, after⟩ := h.lookup this start found
    rw [same, ih after others, plainAnswers]
  | store stored _ ih =>
    obtain ⟨this, others⟩ := List.forall_mem_cons.mp kinds
    rw [ih (h.store this start stored) others, plainAnswers]
    exact nofun
  | invalidate dropped _ ih =>
    obtain ⟨this, others⟩ := List.forall_mem_cons.mp kinds
    rw [ih (h.invalidate this start dropped) others, plainAnswers]
    exact nofun

/-- The entries in memory are those of a plain map. -/
def MemoryHolds (known : Known) (s : Storage) : Prop :=
  ∀ name, (s.memory.get? name).map CacheEntry.stored = known name

variable {known : Known} {s s' : Storage} {entry : CacheEntry} {name dir : String}

theorem MemoryHolds.insert (h : MemoryHolds known s) (entry : CacheEntry) :
    MemoryHolds ((Request.store entry).update known)
      { s with memory := s.memory.insert entry.name entry } := by
  intro name
  rw [Bindings.get?_insert, Request.update, Function.update_apply]
  split
  · rfl
  · exact h name

theorem MemoryHolds.erase (h : MemoryHolds known s) (name : String) :
    MemoryHolds ((Request.invalidate name).update known)
      { s with memory := s.memory.erase name } := by
  intro other
  rw [Bindings.get?_erase, Request.update, Function.update_apply]
  split
  · rfl
  · exact h other

theorem simulates_memory :
    memory.Simulates (fun s s' => s'.memory = s.memory) (fun _ => True) MemoryHolds where
  change h same name := by rw [same]; exact h name
  lookup _ h found := by
    cases found
    exact ⟨h _, h⟩
  store _ h stored := by
    cases stored
    exact h.insert _
  invalidate _ h dropped := by
    cases dropped
    exact h.erase _

/-- The bytes that a store writes. -/
def fileOf (stored : CacheFile.Stored) : List UInt8 :=
  CacheFile.header ++ CacheFile.encodeStored stored

/-- The place of the file of a name. -/
def filePlace (s : Storage) (dir name : String) : List String := s.files.names dir ++ [fileName name]

/-- Nobody changes the files of a cache directory or the way to it. -/
structure LeavesAlone (dir : String) (s s' : Storage) : Prop where
  working : s'.files.working = s.files.working
  grounded : s.files.Grounded → s'.files.Grounded
  opens : s.files.Opens dir → s'.files.Opens dir
  files : ∀ name, s'.files.fileAt? (filePlace s dir name) = s.files.fileAt? (filePlace s dir name)

/-- The files for some names are those of a plain map, and there is a way to them. -/
structure FileHolds (dir : String) (names : Set String) (known : Known) (s : Storage) : Prop where
  grounded : s.files.Grounded
  files : ∀ name ∈ names, s.files.fileAt? (filePlace s dir name) = (known name).map fileOf
  opens : ∀ name ∈ names, known name ≠ none → s.files.Opens dir
  sound : ∀ name stored, known name = some stored →
    stored.name = name ∧ stored.Fits ∧ stored.program.isValid = true

/-- Requests for some names with entries that can be kept. -/
structure Allowed (names : Set String) (request : Request) : Prop where
  name : request.name ∈ names
  sound : request.Sound

/-- The digests of some names differ. -/
def DistinctDigests (names : Set String) : Prop :=
  ∀ a ∈ names, ∀ b ∈ names, digestOf a = digestOf b → a = b

theorem names_entryPath (fs : FileSystem) (dir name : String) :
    fs.names (entryPath dir name) = fs.names dir ++ [fileName name] := by
  rw [entryPath, FileSystem.names_join (isName_fileName name)]

theorem filePlace_congr (same : s'.files.working = s.files.working) (dir name : String) :
    filePlace s' dir name = filePlace s dir name := by
  unfold filePlace FileSystem.names FileSystem.base
  rw [same]

theorem filePlace_ne {names : Set String} (distinct : DistinctDigests names) {a b : String}
    (ha : a ∈ names) (hb : b ∈ names) (ne : a ≠ b) : filePlace s dir a ≠ filePlace s dir b := by
  intro same
  have last := List.append_cancel_left same
  exact ne (distinct a ha b hb (digestOf_of_fileName (List.singleton_inj.mp last)))

variable {names : Set String}

theorem FileHolds.change (h : FileHolds dir names known s) (leaves : LeavesAlone dir s s') :
    FileHolds dir names known s' where
  grounded := leaves.grounded h.grounded
  files name member := by
    rw [filePlace_congr leaves.working, leaves.files, h.files name member]
  opens name member some := leaves.opens (h.opens name member some)
  sound := h.sound

/-- What a reading makes of the file of an entry. -/
theorem readFile_fileOf {stored : CacheFile.Stored} (fits : stored.Fits)
    (valid : stored.program.isValid = true) (s : Storage) :
    readFile stored.name (fileOf stored) s =
      (some ⟨stored.name, stored.freshness, ⟨s.nextId, stored.program⟩⟩,
        { s with nextId := s.nextId + 1 }) := by
  have found := CacheFile.read_encoded fits valid []
  rw [List.append_nil] at found
  rw [readFile, fileOf, found]
  rfl

theorem leavesAlone_of_files (same : s'.files = s.files) : LeavesAlone dir s s' := by
  refine ⟨by rw [same], ?_, ?_, ?_⟩ <;> rw [same]
  · exact id
  · exact id
  · exact fun _ => rfl

theorem FileHolds.lookup {found : Option CacheEntry} (h : FileHolds dir names known s)
    (member : name ∈ names) (looked : lookupFile dir name s = (.ok found, s')) :
    found.map CacheEntry.stored = known name ∧ s'.memory = s.memory ∧ FileHolds dir names known s' := by
  have place : s.files.fileAt? (s.files.names (entryPath dir name)) = (known name).map fileOf := by
    rw [names_entryPath]
    exact h.files name member
  unfold lookupFile at looked
  dsimp only at looked
  split at looked
  case h_1 missing =>
    cases looked
    refine ⟨?_, rfl, h⟩
    cases known_name : known name with
    | none => rfl
    | some stored =>
      have opens := h.opens name member (by rw [known_name]; exact nofun)
      rw [names_entryPath, known_name] at place
      exact absurd missing
        (FileSystem.read_ne_notFound (isName_fileName name) h.grounded.anchored opens place)
  case h_2 => cases looked
  case h_3 bytes read =>
    rw [FileSystem.fileAt?_of_read h.grounded.anchored read] at place
    obtain ⟨stored, known_name, rfl⟩ := Option.map_eq_some_iff.mp place.symm
    obtain ⟨rfl, fits, valid⟩ := h.sound name stored known_name
    rw [readFile_fileOf fits valid] at looked
    cases looked
    refine ⟨known_name.symm, rfl, h.change (leavesAlone_of_files rfl)⟩

/-- What a change of one file makes of a plain map. -/
theorem FileHolds.replace (h : FileHolds dir names known s) (distinct : DistinctDigests names)
    (member : name ∈ names) {new : Option CacheFile.Stored}
    (keeps : s.files.KeepsDirectories s'.files)
    (others : ∀ place, place ≠ filePlace s dir name → s'.files.fileAt? place = s.files.fileAt? place)
    (file : s'.files.fileAt? (filePlace s dir name) = new.map fileOf)
    (opens : new ≠ none → s'.files.Opens dir)
    (sound : ∀ stored ∈ new, stored.name = name ∧ stored.Fits ∧ stored.program.isValid = true) :
    FileHolds dir names (Function.update known name new) s' where
  grounded := h.grounded.kept keeps
  files other among := by
    rw [filePlace_congr keeps.working, Function.update_apply]
    split
    case isTrue same => rw [same, file]
    case isFalse different =>
      rw [others _ (filePlace_ne distinct among member different), h.files other among]
  opens other among some := by
    rw [Function.update_apply] at some
    split at some
    · exact opens some
    · exact (h.opens other among some).kept keeps
  sound other stored found := by
    rw [Function.update_apply] at found
    split at found
    case isTrue same => rw [same]; exact sound stored found
    case isFalse => exact h.sound other stored found

theorem FileHolds.store (h : FileHolds dir names known s) (distinct : DistinctDigests names)
    (allowed : Allowed names (.store entry)) (stored : storeFile dir entry s = (.ok (), s')) :
    s'.memory = s.memory ∧ FileHolds dir names ((Request.store entry).update known) s' := by
  obtain ⟨member, fits, valid⟩ := allowed
  have encoded : CacheFile.encode? ⟨entry.name, entry.freshness, entry.loaded.program⟩
      = some (fileOf entry.stored) := CacheFile.encode?_eq_some fits
  unfold storeFile at stored
  rw [encoded] at stored
  dsimp only at stored
  split at stored
  · cases stored
  case h_2 files made =>
    split at stored
    · cases stored
    case h_2 files' written =>
      cases stored
      obtain ⟨kept, same, opens⟩ := FileSystem.createDirectories_leaves made
      obtain ⟨kept', others⟩ := FileSystem.write_leaves written
      have there := FileSystem.fileAt?_of_write written
      have place : files.names (entryPath dir entry.name) = filePlace s dir entry.name := by
        rw [kept.names, names_entryPath]
        rfl
      rw [place] at others there
      refine ⟨rfl, h.replace distinct member (kept.trans kept') ?_ there ?_ ?_⟩
      · exact fun p other => (others p other).trans (same p)
      · exact fun _ => (opens h.grounded).kept kept'
      · rintro _ ⟨⟩
        exact ⟨rfl, fits, valid⟩

theorem FileHolds.invalidate (h : FileHolds dir names known s) (distinct : DistinctDigests names)
    (member : name ∈ names) (dropped : invalidateFile dir name s = (.ok (), s')) :
    s'.memory = s.memory ∧ FileHolds dir names ((Request.invalidate name).update known) s' := by
  have place : s.files.names (entryPath dir name) = filePlace s dir name := names_entryPath _ _ _
  unfold invalidateFile at dropped
  dsimp only at dropped
  split at dropped
  case h_1 files removed =>
    cases dropped
    obtain ⟨kept, others⟩ := FileSystem.remove_leaves removed
    have gone := FileSystem.fileAt?_of_remove removed
    rw [place] at others gone
    exact ⟨rfl, h.replace distinct member kept others gone (absurd rfl) nofun⟩
  case h_2 missing =>
    cases dropped
    have gone := FileSystem.fileAt?_of_remove_notFound missing
      (Path.join_ne_empty (isName_fileName name).ne_empty dir)
    rw [place] at gone
    exact ⟨rfl, h.replace distinct member ⟨rfl, fun _ => id⟩ (fun _ _ => rfl) gone (absurd rfl) nofun⟩
  case h_3 => cases dropped

theorem file_lookup (dir : String) : (file dir).lookup = lookupFile dir := by rw [file]

theorem file_store (dir : String) : (file dir).store = storeFile dir := by rw [file]

theorem file_invalidate (dir : String) : (file dir).invalidate = invalidateFile dir := by rw [file]

theorem simulates_file (dir : String) (distinct : DistinctDigests names) :
    (file dir).Simulates (LeavesAlone dir) (Allowed names) (FileHolds dir names) where
  change h leaves := h.change leaves
  lookup allowed h looked := by
    rw [file_lookup] at looked
    obtain ⟨same, -, after⟩ := h.lookup allowed.name looked
    exact ⟨same, after⟩
  store allowed h stored := by
    rw [file_store] at stored
    exact (h.store distinct allowed stored).2
  invalidate allowed h dropped := by
    rw [file_invalidate] at dropped
    exact (h.invalidate distinct allowed.name dropped).2

/-- The files are those of a plain map, and so are the entries in memory, as far as there
are any. -/
structure LayersHold (dir : String) (names : Set String) (known : Known) (s : Storage) : Prop where
  files : FileHolds dir names known s
  memory : ∀ name entry, s.memory.get? name = some entry → known name = some entry.stored

/-- Nobody changes the cache directory; the memory may be lost. -/
structure MayRestart (dir : String) (s s' : Storage) : Prop where
  files : LeavesAlone dir s s'
  memory : s'.memory = s.memory ∨ s'.memory = []

theorem FileHolds.withMemory (h : FileHolds dir names known s) (memory : Bindings CacheEntry) :
    FileHolds dir names known { s with memory := memory } :=
  h.change (leavesAlone_of_files rfl)

theorem simulates_layered (dir : String) (distinct : DistinctDigests names) :
    (layered (file dir)).Simulates (MayRestart dir) (Allowed names) (LayersHold dir names) where
  change h changes := by
    refine ⟨h.files.change changes.files, ?_⟩
    rcases changes.memory with same | lost
    · rw [same]
      exact h.memory
    · rw [lost]
      exact nofun
  lookup {known s name found s'} allowed h looked := by
    simp only [layered, file_lookup] at looked
    split at looked
    case h_1 entry remembered =>
      cases looked
      exact ⟨(h.memory name entry remembered).symm, h⟩
    case h_2 =>
      split at looked
      case h_1 entry s₁ durable =>
        cases looked
        obtain ⟨same, memory, after⟩ := h.files.lookup allowed.name durable
        have same : some entry.stored = known name := same
        have own : entry.name = name := (h.files.sound name entry.stored same.symm).1
        refine ⟨same, after.withMemory _, ?_⟩
        intro other entry' remembered
        rw [Bindings.get?_insert, memory] at remembered
        split at remembered
        case isTrue equal =>
          cases remembered
          rw [equal, own, same]
        case isFalse => exact h.memory other entry' remembered
      case h_2 =>
        obtain ⟨same, memory, after⟩ := h.files.lookup allowed.name looked
        refine ⟨same, after, ?_⟩
        rw [memory]
        exact h.memory
  store {known s entry s'} allowed h stored := by
    simp only [layered, file_store] at stored
    obtain ⟨memory, after⟩ := (h.files.withMemory _).store distinct allowed stored
    refine ⟨after, ?_⟩
    intro other entry' remembered
    rw [memory, Bindings.get?_insert] at remembered
    rw [Request.update, Function.update_apply]
    split at remembered
    case isTrue equal =>
      cases remembered
      rw [if_pos equal]
    case isFalse different =>
      rw [if_neg different]
      exact h.memory other entry' remembered
  invalidate {known s name s'} allowed h dropped := by
    simp only [layered, file_invalidate] at dropped
    obtain ⟨memory, after⟩ := (h.files.withMemory _).invalidate distinct allowed.name dropped
    refine ⟨after, ?_⟩
    intro other entry' remembered
    rw [memory, Bindings.get?_erase] at remembered
    rw [Request.update, Function.update_apply]
    split at remembered
    case isTrue => cases remembered
    case isFalse different =>
      rw [if_neg different]
      exact h.memory other entry' remembered

/-- Nothing is kept yet, and the working directory is there. -/
structure Fresh (dir : String) (s : Storage) : Prop where
  memory : s.memory = []
  files : ∀ name, s.files.fileAt? (filePlace s dir name) = none
  grounded : s.files.Grounded

theorem Fresh.fileHolds (h : Fresh dir s) (names : Set String) :
    FileHolds dir names (fun _ => none) s where
  grounded := h.grounded
  files name _ := h.files name
  opens _ _ some := absurd rfl some
  sound := nofun

/-- A sequence of requests that all succeed has the same answers from each cache as from a
plain map. What happens between two requests may not touch what the cache keeps, but the
memory in front of a directory may be lost. -/
theorem caches_refine_map (requests : List Request) (answers : List (Option CacheFile.Stored)) :
    (∀ s, s.memory = [] → memory.Answers (fun s s' => s'.memory = s.memory) s requests answers →
      answers = plainAnswers (fun _ => none) requests) ∧
    ∀ dir s, Fresh dir s → (∀ r ∈ requests, r.Sound) →
      DistinctDigests { name | ∃ r ∈ requests, r.name = name } →
      ((file dir).Answers (LeavesAlone dir) s requests answers →
        answers = plainAnswers (fun _ => none) requests) ∧
      ((layered (file dir)).Answers (MayRestart dir) s requests answers →
        answers = plainAnswers (fun _ => none) requests) := by
  constructor
  · intro s empty given
    refine simulates_memory.answers ?_ (fun _ _ => trivial) given
    intro name
    rw [empty]
    rfl
  · intro dir s fresh sound distinct
    have allowed : ∀ r ∈ requests, Allowed { name | ∃ r ∈ requests, r.name = name } r :=
      fun r member => ⟨⟨r, member, rfl⟩, sound r member⟩
    have holds := fresh.fileHolds { name | ∃ r ∈ requests, r.name = name }
    refine ⟨(simulates_file dir distinct).answers holds allowed, ?_⟩
    refine (simulates_layered dir distinct).answers ⟨holds, ?_⟩ allowed
    rw [fresh.memory]
    exact nofun

end Cache

namespace Hello

open Cache

def requests : List Request :=
  [.store entry, .lookup "t.tx", .lookup "u.tx", .invalidate "t.tx", .lookup "t.tx"]

/-- The process is started anew. -/
def restarted (s : Storage) : Storage := { s with memory := [] }

/-- The answers to some requests with a restart in front of each of them. -/
def answersOf (c : Cache) : Storage → List Request → Option (List (Option CacheFile.Stored))
  | _, [] => some []
  | s, .lookup name :: rest =>
    match c.lookup name (restarted s) with
    | (.ok found, s) => (answersOf c s rest).map (found.map CacheEntry.stored :: ·)
    | (.error _, _) => none
  | s, .store entry :: rest =>
    match c.store entry (restarted s) with
    | (.ok (), s) => answersOf c s rest
    | (.error _, _) => none
  | s, .invalidate name :: rest =>
    match c.invalidate name (restarted s) with
    | (.ok (), s) => answersOf c s rest
    | (.error _, _) => none

theorem mayRestart_restarted (dir : String) (s : Storage) : MayRestart dir s (restarted s) :=
  ⟨leavesAlone_of_files rfl, .inr rfl⟩

theorem answers_of_answersOf {c : Cache} {dir : String} {s : Storage} {requests : List Request}
    {answers : List (Option CacheFile.Stored)} (h : answersOf c s requests = some answers) :
    c.Answers (MayRestart dir) s requests answers := by
  induction requests generalizing s answers with
  | nil =>
    cases h
    exact .done
  | cons request rest ih =>
    refine .change (mayRestart_restarted dir s) ?_
    cases request with
    | lookup name =>
      rw [answersOf] at h
      split at h
      case h_1 found s' looked =>
        obtain ⟨others, later, rfl⟩ := Option.map_eq_some_iff.mp h
        exact .lookup looked (ih later)
      case h_2 => cases h
    | store entry =>
      rw [answersOf] at h
      split at h
      case h_1 s' stored => exact .store stored (ih h)
      case h_2 => cases h
    | invalidate name =>
      rw [answersOf] at h
      split at h
      case h_1 s' dropped => exact .invalidate dropped (ih h)
      case h_2 => cases h

theorem fresh_empty : Fresh "cache" .empty where
  memory := rfl
  files _ := FileSystem.fileAt?_empty _
  grounded := ⟨rfl, rfl, .inr (.inr (by decide)), rfl⟩

theorem caches_refine_map_entry :
    answersOf (.layered (.file "cache")) .empty requests
        = some [some entry.stored, none, none] ∧
      [some entry.stored, none, none] = plainAnswers (fun _ => none) requests := by
  have given : answersOf (.layered (.file "cache")) .empty requests
      = some [some entry.stored, none, none] := by
    decide +kernel
  have sound : ∀ r ∈ requests, r.Sound := by
    simp only [requests, List.forall_mem_cons]
    exact ⟨⟨fits_entry, by decide⟩, trivial, trivial, trivial, trivial, nofun⟩
  have two : ∀ r ∈ requests, r.name = "t.tx" ∨ r.name = "u.tx" := by
    decide
  have differ : digestOf "t.tx" ≠ digestOf "u.tx" := by
    decide +kernel
  have distinct : DistinctDigests { name | ∃ r ∈ requests, r.name = name } := by
    rintro _ ⟨r, hr, rfl⟩ _ ⟨r', hr', rfl⟩ same
    rcases two r hr with a | a <;> rcases two r' hr' with b | b <;> rw [a, b] at same ⊢
    · exact absurd same differ
    · exact absurd same.symm differ
  exact ⟨given, ((caches_refine_map requests _).2 "cache" .empty fresh_empty sound distinct).2
    (answers_of_answersOf given)⟩

end Hello
end TemplateEngine
