import TemplateEngine.Proofs.Loader.Coherence

/-!
# Which build a loaded program has

Loaders that share a cache may compile with different settings. An entry is always
of the build that its token names, but only a check of freshness looks at the
token. So a loader that checks, or uses no cache, never runs a program of another
build, while a loader that takes any entry that it finds may run one.
-/

namespace TemplateEngine

/-- The loader makes the program of one of the sources. -/
def Loader.Builds (l : Loader) (sources : Set SourceText) (name : String) (p : Program) : Prop :=
  ∃ source ∈ sources, l.compiled name source.text = .ok p

/-- The entry is of the build that its token names. -/
def BuiltAsNamed (sources : Set SourceText) : EntryProperty := fun name freshness p =>
  ∃ l : Loader, l.build = freshness.build ∧ l.Builds sources name p

/-- The loader runs an entry of another build, and finds it without a look at the token. -/
structure Loader.Borrows (l : Loader) (dirs : Set String) (sources : Set SourceText)
    (name : String) (s : Storage) (loaded : Loaded) : Prop where
  unchecked : l.options.strategy = .memoryOnly
  kept : ∃ entry s', Cache.LookedUp dirs name s (.ok (some entry)) s' ∧ entry.loaded = loaded ∧
    entry.freshness.build ≠ l.build ∧ BuiltAsNamed sources name entry.freshness loaded.program

variable {dirs : Set String} {sources : Set SourceText} {s : Storage} {l l' : Loader}
  {name : String} {p : Program}

theorem Loader.Builds.of_build (h : l'.Builds sources name p) (same : l'.build = l.build) :
    l.Builds sources name p := by
  obtain ⟨source, known, gives⟩ := h
  refine ⟨source, known, ?_⟩
  rw [Loader.compiled_congr (Loader.compilation_of_build same.symm)]
  exact gives

theorem lasting_builtAsNamed : (BuiltAsNamed sources).Lasting := by
  intro name freshness p h
  exact h

/-- No history leaves an entry whose token names another build than its own. -/
theorem History.builtAsNamed {start : Storage} (history : History dirs sources start s)
    (cold : start.Cold dirs) : s.Holds dirs (BuiltAsNamed sources) := by
  apply history.keeps lasting_builtAsNamed _ (cold.holds _)
  intro l name source known p gives
  exact ⟨l, rfl, source, known, gives⟩

/-- Whatever the builds of the loaders before, a program that is loaded is of the
loader's own build, unless the loader takes an entry without a check. -/
theorem load_builds_or_borrows {start : Storage} {stats : LoaderStats} {loaded : Loaded}
    (cold : start.Cold dirs) (history : History dirs sources start s)
    (shared : l.cache.Shared dirs)
    (occurs : ∀ source, l.source.resolve s name = .ok source → source ∈ sources)
    (gives : (l.load name ⟨s, stats⟩).1 = .ok loaded) :
    l.Builds sources name loaded.program ∨ l.Borrows dirs sources name s loaded := by
  have holds := history.builtAsNamed cold
  have loads := l.load_loads shared name ⟨s, stats⟩
  rw [gives] at loads
  cases loads with
  | fresh resolved compiled looked stored =>
    exact .inl ⟨_, occurs _ resolved, compiled⟩
  | @hit entry s₁ cached fresh looked =>
    obtain ⟨-, l', named, builds⟩ := holds.found looked rfl
    by_cases same : entry.freshness.build = l.build
    · exact .inl (builds.of_build (named.trans same))
    · right
      refine ⟨?_, entry, _, looked, rfl, same, l', named, builds⟩
      -- A fresh entry is of the loader's build, so the loader does not check.
      cases strategy : l.options.strategy with
      | none => exact absurd strategy cached
      | memoryOnly => rfl
      | freshnessChecked =>
        obtain ⟨source, -, passed⟩ := fresh strategy
        exact absurd (FreshnessCheck.same_of_isFresh passed).2 same

namespace SharedMemory

/-- A loader on the templates and the cache in memory. -/
def loader (autoEscape : Bool) (strategy : CacheStrategy) : Loader where
  source := .memory
  cache := .memory
  dialect := .tterse
  compilation := ⟨autoEscape⟩
  options := { strategy := strategy }

def texts : Set SourceText := {⟨none, "[% x %]", none⟩}

def start : Storage := { Storage.empty with templates := [("page", "[% x %]")] }

/-- The page is loaded by a loader that does not escape. -/
def filled : Storage := ((loader false .memoryOnly).load "page" ⟨start, .zero⟩).2.storage

/-- The program of the page. -/
def printing (mode : OutputMode) : Program where
  name := "page"
  constants := #[]
  names := #["x"]
  macros := #[]
  instructions := #[.loadVar 0, .print mode, .finish]

theorem cold_start : start.Cold {"cache"} := Storage.cold_of_empty rfl rfl

theorem occurs_start : ∀ source, Source.memory.resolve start "page" = .ok source → source ∈ texts := by
  intro source resolved
  cases resolved
  rfl

theorem occurs_filled :
    ∀ source, Source.memory.resolve filled "page" = .ok source → source ∈ texts := by
  intro source resolved
  have shared : (loader false .memoryOnly).cache.Shared {"cache"} := .memory
  have templates : filled.templates = start.templates :=
    ((loader false .memoryOnly).load_loads shared "page" ⟨start, .zero⟩).templates
  apply occurs_start
  simp only [Source.resolve, templates] at resolved ⊢
  exact resolved

theorem history_filled : History {"cache"} texts start filled :=
  .step (.refl start) (.load (loader false .memoryOnly) "page" .zero .memory occurs_start)

/-- A loader that escapes and checks compiles the page anew. -/
theorem escaping_page_builds :
    (loader true .freshnessChecked).Builds texts "page" (printing .html) ∨
      (loader true .freshnessChecked).Borrows {"cache"} texts "page" filled ⟨1, printing .html⟩ := by
  have gives : ((loader true .freshnessChecked).load "page" ⟨filled, .zero⟩).1
      = .ok ⟨1, printing .html⟩ := eq_ok_of_toOption (by decide +kernel)
  exact load_builds_or_borrows cold_start history_filled .memory occurs_filled gives

/-- A loader that escapes and does not check runs the page without escaping. -/
theorem escaping_page_borrowed : ¬ ∀ (dirs : Set String) (sources : Set SourceText)
    (start s : Storage) (l : Loader) (name : String) (stats : LoaderStats) (loaded : Loaded),
    start.Cold dirs → History dirs sources start s → l.cache.Shared dirs →
    (∀ source, l.source.resolve s name = .ok source → source ∈ sources) →
    (l.load name ⟨s, stats⟩).1 = .ok loaded → l.Builds sources name loaded.program := by
  intro isolated
  have gives : ((loader true .memoryOnly).load "page" ⟨filled, .zero⟩).1
      = .ok ⟨0, printing .raw⟩ := eq_ok_of_toOption (by decide +kernel)
  obtain ⟨source, rfl, compiled⟩ := isolated {"cache"} texts start filled (loader true .memoryOnly)
    "page" .zero ⟨0, printing .raw⟩ cold_start history_filled .memory occurs_filled gives
  have escaped : (loader true .memoryOnly).compiled "page" "[% x %]" = .ok (printing .html) :=
    eq_ok_of_toOption (by decide +kernel)
  rw [escaped] at compiled
  exact absurd (Except.ok.inj compiled) (by decide)

end SharedMemory
end TemplateEngine
