import TemplateEngine.Proofs.Cache.Shared
import TemplateEngine.Proofs.Cache.Stored

/-!
# What a storage vouches for

A property of entries, by their name, token and program, is kept by all that
caches do if it holds of all entries that are put into them: in memory, and in
each file that has the place of an entry and is read as one. A file need not be
written by a cache for that, and one that is damaged vouches for nothing.
-/

namespace TemplateEngine

/-- A property of an entry by its name, its token and its program. -/
abbrev EntryProperty := String → Freshness → Program → Prop

/-- All entries that can be found have the property. -/
structure Storage.Holds (dirs : Set String) (Q : EntryProperty) (s : Storage) : Prop where
  anchored : s.files.Anchored
  memory : ∀ name entry, s.memory.get? name = some entry →
    entry.name = name ∧ Q name entry.freshness entry.loaded.program
  files : ∀ dir ∈ dirs, ∀ name bytes stored,
    s.files.fileAt? (s.files.names (Cache.entryPath dir name)) = some bytes →
    CacheFile.read name bytes = .found stored → Q name stored.freshness stored.program

/-- The property does not depend on the form of a time. -/
def EntryProperty.Lasting (Q : EntryProperty) : Prop :=
  ∀ name freshness program, Q name freshness program → Q name freshness.normal program

theorem FileSystem.names_congr {fs fs' : FileSystem} (same : fs'.working = fs.working)
    (path : String) : fs'.names path = fs.names path := by
  rw [FileSystem.names, FileSystem.names, FileSystem.base, FileSystem.base, same]

namespace Storage.Holds

variable {dirs : Set String} {Q : EntryProperty} {s s' : Storage} {name : String}
  {entry : CacheEntry} {result : Except CacheError (Option CacheEntry)}

theorem fromFile (h : s.Holds dirs Q) (found : Cache.FromFile dirs name s entry) :
    entry.name = name ∧ Q name entry.freshness entry.loaded.program := by
  obtain ⟨dir, known, bytes, stored, opened, read, rfl⟩ := found
  have there := FileSystem.fileAt?_of_read h.anchored opened
  exact ⟨CacheFile.name_of_found read, h.files dir known name bytes stored there read⟩

theorem found (h : s.Holds dirs Q) (looked : Cache.LookedUp dirs name s result s')
    (same : result = .ok (some entry)) :
    entry.name = name ∧ Q name entry.freshness entry.loaded.program := by
  rcases looked.found entry same with kept | ⟨from_file, -⟩
  · exact h.memory name entry kept
  · exact h.fromFile from_file

theorem lookedUp (h : s.Holds dirs Q) (looked : Cache.LookedUp dirs name s result s') :
    s'.Holds dirs Q := by
  refine ⟨looked.files ▸ h.anchored, ?_, looked.files ▸ h.files⟩
  intro n entry kept
  rcases looked.memory n entry kept with old | ⟨rfl, -, from_file⟩
  · exact h.memory n entry old
  · obtain ⟨same, has⟩ := h.fromFile from_file
    exact ⟨rfl, same ▸ has⟩

theorem stored (h : s.Holds dirs Q) (lasting : Q.Lasting)
    (has : Q entry.name entry.freshness entry.loaded.program) (stored : Cache.Stored entry s s') :
    s'.Holds dirs Q := by
  refine ⟨?_, ?_, ?_⟩
  · rw [FileSystem.Anchored, stored.working]
    exact h.anchored
  · intro n e kept
    rcases stored.memory n e kept with old | ⟨rfl, rfl⟩
    · exact h.memory n e old
    · exact ⟨rfl, has⟩
  · intro dir known n bytes found there read
    rw [FileSystem.names_congr stored.working] at there
    rcases stored.files _ _ there with old | written
    · exact h.files dir known n bytes found old read
    · obtain rfl := CacheFile.found_of_encode? written read
      obtain rfl : entry.name = n := CacheFile.name_of_found read
      exact lasting _ _ _ has

theorem invalidated (h : s.Holds dirs Q) (gone : Cache.Invalidated s s') : s'.Holds dirs Q := by
  refine ⟨?_, fun n e kept => h.memory n e (gone.memory n e kept),
    fun dir known n bytes found there read => ?_⟩
  · rw [FileSystem.Anchored, gone.working]
    exact h.anchored
  · rw [FileSystem.names_congr gone.working] at there
    exact h.files dir known n bytes found (gone.files _ _ there) read

end Storage.Holds
end TemplateEngine
