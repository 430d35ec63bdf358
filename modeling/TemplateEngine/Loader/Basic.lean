import TemplateEngine.Loader.Source
import TemplateEngine.Program.Listing
import TemplateEngine.Template.Block
import TemplateEngine.Template.Dialect
import TemplateEngine.Template.Outline

/-!
# Loading templates

A loader turns the name of a template into a compiled program. How far it uses
programs that are in its cache is a matter of its strategy. A cache that fails
never makes a load fail: the template is compiled instead.
-/

namespace TemplateEngine

/-- How compiled programs are used again, from least to most careful. -/
inductive CacheStrategy where
  /-- Compile at every load. -/
  | none
  /-- Compile once; sources are taken never to change. -/
  | memoryOnly
  /-- Use a program again as long as its source is unchanged. -/
  | freshnessChecked
deriving DecidableEq

structure LoaderOptions where
  strategy : CacheStrategy := .freshnessChecked
  freshness : FreshnessCheck := .modifiedTime
  /-- Whether to log the tree of each template that is compiled. -/
  dumpTree : Bool := false
  /-- Whether to log the listing of each program that is compiled. -/
  dumpProgram : Bool := false
deriving DecidableEq

structure LoaderStats where
  /-- Templates compiled, also those given as a text. -/
  compilations : Nat
  cacheHits : Nat
  /-- Lookups and stores that failed and were done without. -/
  cacheErrors : Nat
deriving DecidableEq

def LoaderStats.zero : LoaderStats := ⟨0, 0, 0⟩

structure Loader where
  source : Source
  cache : Cache
  dialect : Dialect
  compilation : CompileOptions
  options : LoaderOptions

/-- The storage, which loaders may share, and what one loader has done. -/
structure LoaderState where
  storage : Storage
  stats : LoaderStats

/-- An action of a loader; its effects stay if it fails. -/
abbrev LoaderAction (α : Type) := LoaderState → Except Error α × LoaderState

namespace CompileOptions

/-- The settings that a compiled program depends on. -/
def fingerprint (o : CompileOptions) : String :=
  "CompilationOptions \x7b auto_escape: " ++ (if o.autoEscape then "true" else "false") ++ " \x7d"

end CompileOptions

namespace LoaderState

def start (storage : Storage) : LoaderState := ⟨storage, .zero⟩

def record (s : LoaderState) (event : LogEvent) : LoaderState :=
  { s with storage := s.storage.record event }

def countCompilation (s : LoaderState) : LoaderState :=
  { s with stats := { s.stats with compilations := s.stats.compilations + 1 } }

def countHit (s : LoaderState) : LoaderState :=
  { s with stats := { s.stats with cacheHits := s.stats.cacheHits + 1 } }

def countError (s : LoaderState) : LoaderState :=
  { s with stats := { s.stats with cacheErrors := s.stats.cacheErrors + 1 } }

end LoaderState

namespace Loader

/-- What programs of this loader are compiled by and with. -/
def build (l : Loader) : String := l.dialect.name ++ "/" ++ l.compilation.fingerprint

/-- Compiles a text under a name. -/
def compile (l : Loader) (name text : String) : LoaderAction Loaded := fun s =>
  match Template.parse name text with
  | .error e => (.error (.parse e), s)
  | .ok template =>
    let s := if l.options.dumpTree then
        s.record ⟨.info, some name, "syntax tree:\n" ++ template.outline⟩
      else s
    match template.compile l.compilation text with
    | .error e => (.error (.compile e), s)
    | .ok program =>
      let s := if l.options.dumpProgram then
          s.record ⟨.info, some name, "bytecode:\n" ++ program.listing⟩
        else s
      let (loaded, storage) := s.storage.identify program
      (.ok loaded, { s with storage := storage }.countCompilation)

/-- Looks into the cache; a failure counts as nothing found. -/
def lookup (l : Loader) (name : String) (s : LoaderState) : Option CacheEntry × LoaderState :=
  match l.cache.lookup name s.storage with
  | (.ok entry, storage) => (entry, { s with storage := storage })
  | (.error _, storage) =>
    (none, { s with storage := storage }.countError.record
      ⟨.warn, some name, "cache lookup failed, recompiling"⟩)

/-- Puts an entry into the cache; a failure is passed over. -/
def store (l : Loader) (entry : CacheEntry) (s : LoaderState) : LoaderState :=
  match l.cache.store entry s.storage with
  | (.ok _, storage) => { s with storage := storage }
  | (.error _, storage) =>
    { s with storage := storage }.countError.record
      ⟨.warn, some entry.name, "failed to store compiled template in cache"⟩

/-- Compiles a text and puts the program into the cache. -/
def compileAndStore (l : Loader) (name : String) (source : SourceText) : LoaderAction Loaded :=
  fun s =>
    match l.compile name source.text s with
    | (.error e, s) => (.error e, s)
    | (.ok loaded, s) => (.ok loaded, l.store ⟨name, source.freshness l.build, loaded⟩ s)

def loadFresh (l : Loader) (name : String) : LoaderAction Loaded := fun s =>
  match l.source.resolve s.storage name with
  | .error e => (.error e, s)
  | .ok source =>
    match l.lookup name s with
    | (some entry, s) =>
      if l.options.freshness.isFresh entry.freshness (source.freshness l.build) then
        (.ok entry.loaded, s.countHit)
      else l.compileAndStore name source s
    | (none, s) => l.compileAndStore name source s

def loadOnce (l : Loader) (name : String) : LoaderAction Loaded := fun s =>
  match l.lookup name s with
  | (some entry, s) => (.ok entry.loaded, s.countHit)
  | (none, s) =>
    match l.source.resolve s.storage name with
    | .error e => (.error e, s)
    | .ok source => l.compileAndStore name source s

def loadAnew (l : Loader) (name : String) : LoaderAction Loaded := fun s =>
  match l.source.resolve s.storage name with
  | .error e => (.error e, s)
  | .ok source => l.compile name source.text s

/-- The program of a template. -/
def load (l : Loader) (name : String) : LoaderAction Loaded :=
  match l.options.strategy with
  | .none => l.loadAnew name
  | .memoryOnly => l.loadOnce name
  | .freshnessChecked => l.loadFresh name

/-- The program of a text; it is never put into the cache. -/
def loadText (l : Loader) (name text : String) : LoaderAction Loaded := l.compile name text

end Loader
end TemplateEngine
