import Mathlib.Data.Set.Defs
import TemplateEngine.Cache.Basic
import TemplateEngine.Proofs.FileSystem.Places

/-!
# What caches do

Caches act on one storage, in memory, in the files of some directories or in
both, and any call of them may fail instead of acting. Whatever the cache is, a
lookup gives an entry that is in memory or is read from the file of its name, and
a store puts its entry and nothing else; it may put it into memory and then fail.
-/

namespace TemplateEngine

/-- The calls of a cache that fail, by what is stored at the time. -/
structure CacheFaults where
  lookup : String → Storage → Option CacheError
  store : CacheEntry → Storage → Option CacheError
  invalidate : String → Storage → Option CacheError

namespace Cache

/-- A cache some of whose calls fail without an effect. -/
def failing (faults : CacheFaults) (c : Cache) : Cache where
  lookup name s :=
    match faults.lookup name s with
    | some e => (.error e, s)
    | none => c.lookup name s
  store entry s :=
    match faults.store entry s with
    | some e => (.error e, s)
    | none => c.store entry s
  invalidate name s :=
    match faults.invalidate name s with
    | some e => (.error e, s)
    | none => c.invalidate name s

/-- A cache on the memory and the files of some directories. -/
inductive Shared (dirs : Set String) : Cache → Prop
  | memory : Shared dirs .memory
  | file {dir} : dir ∈ dirs → Shared dirs (.file dir)
  | layered {durable} : Shared dirs durable → Shared dirs (.layered durable)
  | failing {c} (faults) : Shared dirs c → Shared dirs (c.failing faults)

/-- The entry is read from a file that some directory has for the name. -/
def FromFile (dirs : Set String) (name : String) (s : Storage) (entry : CacheEntry) : Prop :=
  ∃ dir ∈ dirs, ∃ bytes stored, s.files.read (entryPath dir name) = .ok bytes ∧
    CacheFile.read name bytes = .found stored ∧
    entry = ⟨stored.name, stored.freshness, ⟨s.nextId, stored.program⟩⟩

/-- What a lookup of a name gives, and what it leaves behind. -/
structure LookedUp (dirs : Set String) (name : String) (s : Storage)
    (result : Except CacheError (Option CacheEntry)) (s' : Storage) : Prop where
  files : s'.files = s.files
  templates : s'.templates = s.templates
  memory : ∀ n entry, s'.memory.get? n = some entry →
    s.memory.get? n = some entry ∨ n = entry.name ∧ result = .ok (some entry) ∧ FromFile dirs name s entry
  nextId : s.nextId ≤ s'.nextId
  found : ∀ entry, result = .ok (some entry) →
    s.memory.get? name = some entry ∨ FromFile dirs name s entry ∧ s.nextId < s'.nextId

/-- What storing an entry leaves behind. -/
structure Stored (entry : CacheEntry) (s s' : Storage) : Prop where
  working : s'.files.working = s.files.working
  templates : s'.templates = s.templates
  nextId : s'.nextId = s.nextId
  memory : ∀ n e, s'.memory.get? n = some e → s.memory.get? n = some e ∨ n = entry.name ∧ e = entry
  files : ∀ place content, s'.files.fileAt? place = some content →
    s.files.fileAt? place = some content ∨
      CacheFile.encode? ⟨entry.name, entry.freshness, entry.loaded.program⟩ = some content

/-- What invalidating a name leaves behind. -/
structure Invalidated (s s' : Storage) : Prop where
  working : s'.files.working = s.files.working
  templates : s'.templates = s.templates
  nextId : s'.nextId = s.nextId
  memory : ∀ n e, s'.memory.get? n = some e → s.memory.get? n = some e
  files : ∀ place content, s'.files.fileAt? place = some content →
    s.files.fileAt? place = some content

variable {dirs : Set String} {c : Cache} {name dir : String} {s s' : Storage} {entry : CacheEntry}

theorem lookedUp_nothing {result : Except CacheError (Option CacheEntry)}
    (nothing : ∀ entry, result ≠ .ok (some entry)) : LookedUp dirs name s result s :=
  ⟨rfl, rfl, fun _ _ known => .inl known, Nat.le_refl _, fun _ same => absurd same (nothing _)⟩

theorem stored_refl (entry : CacheEntry) (s : Storage) : Stored entry s s :=
  ⟨rfl, rfl, rfl, fun _ _ known => .inl known, fun _ _ known => .inl known⟩

theorem invalidated_refl (s : Storage) : Invalidated s s :=
  ⟨rfl, rfl, rfl, fun _ _ known => known, fun _ _ known => known⟩

theorem lookedUp_file (known : dir ∈ dirs) (name : String) (s : Storage) :
    LookedUp dirs name s (lookupFile dir name s).1 (lookupFile dir name s).2 := by
  unfold lookupFile
  dsimp only
  split
  · exact lookedUp_nothing nofun
  · exact lookedUp_nothing nofun
  case h_3 bytes opened =>
    unfold readFile
    cases found : CacheFile.read name bytes with
    | found stored =>
      have from_file : FromFile dirs name s ⟨stored.name, stored.freshness, ⟨s.nextId, stored.program⟩⟩ :=
        ⟨dir, known, bytes, stored, opened, found, rfl⟩
      refine ⟨rfl, rfl, fun _ _ known => .inl known, Nat.le_succ _, ?_⟩
      rintro _ ⟨⟩
      exact .inr ⟨from_file, Nat.lt_succ_self _⟩
    | foreign => exact lookedUp_nothing nofun
    | undecodable => exact ⟨rfl, rfl, fun _ _ known => .inl known, Nat.le_refl _, nofun⟩
    | invalid => exact ⟨rfl, rfl, fun _ _ known => .inl known, Nat.le_refl _, nofun⟩

theorem Shared.lookedUp (shared : c.Shared dirs) (name : String) (s : Storage) :
    LookedUp dirs name s (c.lookup name s).1 (c.lookup name s).2 := by
  induction shared with
  | memory =>
    refine ⟨rfl, rfl, fun _ _ known => .inl known, Nat.le_refl _, fun entry same => .inl ?_⟩
    exact Except.ok.inj same
  | file known => exact lookedUp_file known name s
  | @layered durable _ ih =>
    unfold Cache.layered
    dsimp only
    cases kept : s.memory.get? name with
    | some entry =>
      refine ⟨rfl, rfl, fun _ _ known => .inl known, Nat.le_refl _, ?_⟩
      rintro _ ⟨⟩
      exact .inl kept
    | none =>
      generalize durable.lookup name s = looked at ih
      obtain ⟨result, s'⟩ := looked
      rcases result with e | _ | entry
      · exact ih
      · exact ih
      · rcases ih.found entry rfl with kept' | ⟨from_file, fresh⟩
        · rw [kept] at kept'
          cases kept'
        · refine ⟨ih.files, ih.templates, ?_, ih.nextId, ?_⟩
          · intro n e known
            rw [Bindings.get?_insert] at known
            split at known
            case isTrue same =>
              cases known
              exact .inr ⟨same, rfl, from_file⟩
            case isFalse => exact ih.memory n e known
          · rintro _ ⟨⟩
            exact .inr ⟨from_file, fresh⟩
  | failing faults _ ih =>
    unfold Cache.failing
    dsimp only
    split
    · exact lookedUp_nothing nofun
    · exact ih

theorem stored_file (dir : String) (entry : CacheEntry) (s : Storage) :
    Stored entry s (storeFile dir entry s).2 := by
  unfold storeFile
  split
  · exact stored_refl entry s
  case h_2 bytes encoded =>
    split
    · exact stored_refl entry s
    case h_2 files made =>
      obtain ⟨root, rfl, kept⟩ := FileSystem.createDirectories_eq_ok made
      dsimp only
      split
      · exact ⟨rfl, rfl, rfl, fun _ _ known => .inl known,
          fun place content known => .inl (kept place content known)⟩
      case h_2 files written =>
        have working := FileSystem.working_write written
        refine ⟨working, rfl, rfl, fun _ _ known => .inl known, ?_⟩
        intro place content known
        rcases FileSystem.fileAt?_write written known with old | ⟨-, rfl⟩
        · exact .inl (kept place content old)
        · exact .inr encoded

theorem Shared.stored (shared : c.Shared dirs) (entry : CacheEntry) (s : Storage) :
    Stored entry s (c.store entry s).2 := by
  induction shared generalizing s with
  | memory =>
    refine ⟨rfl, rfl, rfl, ?_, fun _ _ known => .inl known⟩
    intro n e known
    rw [memory_store, Bindings.get?_insert] at known
    split at known
    case isTrue same =>
      cases known
      exact .inr ⟨same, rfl⟩
    case isFalse => exact .inl known
  | @file dir _ => exact stored_file dir entry s
  | layered _ ih =>
    have inner := ih { s with memory := s.memory.insert entry.name entry }
    refine ⟨inner.working, inner.templates, inner.nextId, ?_, inner.files⟩
    intro n e known
    rcases inner.memory n e known with kept | new
    · rw [Bindings.get?_insert] at kept
      split at kept
      case isTrue same =>
        cases kept
        exact .inr ⟨same, rfl⟩
      case isFalse => exact .inl kept
    · exact .inr new
  | failing faults _ ih =>
    unfold Cache.failing
    dsimp only
    split
    · exact stored_refl entry s
    · exact ih s

theorem invalidated_file (dir name : String) (s : Storage) :
    Invalidated s (invalidateFile dir name s).2 := by
  unfold invalidateFile
  dsimp only
  split
  case h_1 files removed =>
    exact ⟨FileSystem.working_remove removed, rfl, rfl, fun _ _ known => known,
      fun _ _ known => FileSystem.fileAt?_remove removed known⟩
  · exact invalidated_refl s
  · exact invalidated_refl s

theorem Shared.invalidated (shared : c.Shared dirs) (name : String) (s : Storage) :
    Invalidated s (c.invalidate name s).2 := by
  induction shared generalizing s with
  | memory =>
    refine ⟨rfl, rfl, rfl, ?_, fun _ _ known => known⟩
    intro n e known
    rw [memory_invalidate, Bindings.get?_erase] at known
    split at known
    · cases known
    · exact known
  | @file dir _ => exact invalidated_file dir name s
  | layered _ ih =>
    have inner := ih { s with memory := s.memory.erase name }
    refine ⟨inner.working, inner.templates, inner.nextId, ?_, inner.files⟩
    intro n e known
    have kept := inner.memory n e known
    rw [Bindings.get?_erase] at kept
    split at kept
    · cases kept
    · exact kept
  | failing faults _ ih =>
    unfold Cache.failing
    dsimp only
    split
    · exact invalidated_refl s
    · exact ih s

end Cache
end TemplateEngine
