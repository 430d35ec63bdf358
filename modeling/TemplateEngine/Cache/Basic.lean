import TemplateEngine.Cache.Entry
import TemplateEngine.Digest
import TemplateEngine.Error

/-!
# Caches

A cache keeps entries by the name of their template. Caches act on a storage
that all of them share: the memory of the process, the file system, the supply
of identities for programs and a log. Looking up and storing can fail; what has
been done before a failure stays done.
-/

namespace TemplateEngine

inductive LogLevel where
  | info
  | warn
deriving DecidableEq

structure LogEvent where
  level : LogLevel
  /-- The template that the event is about. -/
  template : Option String
  message : String
deriving DecidableEq

structure Storage where
  files : FileSystem
  /-- Templates registered in memory. -/
  templates : Bindings String
  /-- The cache entries in memory. -/
  memory : Bindings CacheEntry
  /-- Identities from this one on are unused. -/
  nextId : Nat
  /-- Latest first. -/
  log : List LogEvent

namespace Storage

def empty : Storage where
  files := .empty
  templates := []
  memory := []
  nextId := 0
  log := []

def record (s : Storage) (event : LogEvent) : Storage := { s with log := event :: s.log }

/-- Gives a program an identity of its own. -/
def identify (s : Storage) (program : Program) : Loaded × Storage :=
  (⟨s.nextId, program⟩, { s with nextId := s.nextId + 1 })

end Storage

/-- An action on the storage; its effects stay if it fails. -/
abbrev CacheAction (α : Type) := Storage → Except CacheError α × Storage

structure Cache where
  lookup : String → CacheAction (Option CacheEntry)
  /-- Keeps an entry under its name. -/
  store : CacheEntry → CacheAction Unit
  invalidate : String → CacheAction Unit

namespace Cache

/-- Keeps entries as long as the process lives. -/
def memory : Cache where
  lookup name s := (.ok (s.memory.get? name), s)
  store entry s := (.ok (), { s with memory := s.memory.insert entry.name entry })
  invalidate name s := (.ok (), { s with memory := s.memory.erase name })

/-- The file of an entry is named by the digest of its name. -/
def fileName (name : String) : String := Digest.ofText name ++ ".txc"

def entryPath (dir name : String) : String := Path.join dir (fileName name)

/-- The time of writing is of no interest for a cache file. -/
def writeTime : Timestamp := ⟨0, 0⟩

/-- What a file says about a name; each reading makes a new program. -/
def readFile (name : String) (bytes : List UInt8) (s : Storage) : Option CacheEntry × Storage :=
  match CacheFile.read name bytes with
  | .found stored =>
    let (loaded, s) := s.identify stored.program
    (some ⟨stored.name, stored.freshness, loaded⟩, s)
  | .foreign => (none, s)
  | .undecodable => (none, s.record ⟨.warn, none, "ignoring undecodable cache file"⟩)
  | .invalid => (none, s.record ⟨.warn, none, "ignoring invalid cached program"⟩)

def lookupFile (dir name : String) : CacheAction (Option CacheEntry) := fun s =>
  let path := entryPath dir name
  match s.files.read path with
  | .error .notFound => (.ok none, s)
  | .error fault => (.error (.file path fault), s)
  | .ok bytes =>
    let (entry, s) := readFile name bytes s
    (.ok entry, s)

def storeFile (dir : String) (entry : CacheEntry) : CacheAction Unit := fun s =>
  match CacheFile.encode? ⟨entry.name, entry.freshness, entry.loaded.program⟩ with
  | none => (.error .unwritableTime, s)
  | some bytes =>
    match s.files.createDirectories dir with
    | .error fault => (.error (.file dir fault), s)
    | .ok files =>
      let path := entryPath dir entry.name
      match files.write path bytes writeTime with
      | .error fault => (.error (.file path fault), { s with files := files })
      | .ok files => (.ok (), { s with files := files })

def invalidateFile (dir name : String) : CacheAction Unit := fun s =>
  let path := entryPath dir name
  match s.files.remove path with
  | .ok files => (.ok (), { s with files := files })
  | .error .notFound => (.ok (), s)
  | .error fault => (.error (.file path fault), s)

/-- Keeps each entry in a file of a directory. -/
def file (dir : String) : Cache where
  lookup := lookupFile dir
  store := storeFile dir
  invalidate := invalidateFile dir

/-- Keeps entries in memory in front of a durable cache. What is found there is
taken into memory. -/
def layered (durable : Cache) : Cache where
  lookup name s :=
    match s.memory.get? name with
    | some entry => (.ok (some entry), s)
    | none =>
      match durable.lookup name s with
      | (.ok (some entry), s) =>
        (.ok (some entry), { s with memory := s.memory.insert entry.name entry })
      | result => result
  store entry s := durable.store entry { s with memory := s.memory.insert entry.name entry }
  invalidate name s := durable.invalidate name { s with memory := s.memory.erase name }

/-- Fails at every call. -/
def unavailable (path reason : String) : Cache where
  lookup _ s := (.error (.file path (.failed reason)), s)
  store _ s := (.error (.file path (.failed reason)), s)
  invalidate _ s := (.error (.file path (.failed reason)), s)

@[simp] theorem memory_lookup (name : String) (s : Storage) :
    memory.lookup name s = (.ok (s.memory.get? name), s) := rfl

@[simp] theorem memory_store (entry : CacheEntry) (s : Storage) :
    memory.store entry s = (.ok (), { s with memory := s.memory.insert entry.name entry }) := rfl

@[simp] theorem memory_invalidate (name : String) (s : Storage) :
    memory.invalidate name s = (.ok (), { s with memory := s.memory.erase name }) := rfl

end Cache
end TemplateEngine
