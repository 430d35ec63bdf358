import TemplateEngine.Proofs.Engine.Transparent
import TemplateEngine.Proofs.Meaning.Ends

/-!
# Renders of templates without `WHILE` end

Among templates none of which has a `WHILE` block, every render ends: a cache that only
these templates were loaded through holds nothing but what they compile to.
-/

namespace TemplateEngine
namespace Engine

variable {e : Engine} {dirs : Set String} {cold : Storage} {s : LoaderState} {name : String}

/-- No template of the engine has a `WHILE` block. -/
def LoopFree (e : Engine) (cold : Storage) : Prop :=
  ∀ name source t, e.loader.source.resolve cold name = .ok source →
    Template.parse name source.text = .ok t → t.isLoopFree = true

theorem LoopFree.isLoopFree_of_load (free : e.LoopFree cold) (shared : e.loader.cache.Shared dirs)
    (empty : cold.Cold dirs) (steady : e.loader.Steady dirs cold)
    (warm : e.loader.Warms dirs cold s.storage) {loaded : Loaded}
    (gives : (e.loader.load name s).1 = .ok loaded) : loaded.program.IsLoopFree := by
  have program := warm.program empty steady rfl rfl (e.loader.load_loads shared name s)
  rw [gives] at program
  have current : e.loader.current cold name = .ok loaded.program := program.symm
  unfold Loader.current at current
  split at current
  · cases current
  case h_2 source resolved =>
    obtain ⟨t, parsed, compiled⟩ := Loader.compiled_eq_ok.mp current
    exact ⟨t, e.loader.compilation, source.text, compiled, free name source t resolved parsed⟩

/-- Every render ends if no template has a `WHILE` block, whatever includes whatever. -/
theorem render_ends (free : e.LoopFree cold) (unlimited : e.execution.maxSteps = none)
    (shared : e.loader.cache.Shared dirs) (empty : cold.Cold dirs)
    (steady : e.loader.Steady dirs cold) (warm : e.loader.Warms dirs cold s.storage)
    (name : String) (vars : Vars) : ∃ fuel r, e.render fuel name vars s = some r := by
  let I : LoaderState → Prop := fun s => e.loader.Warms dirs cold s.storage
  have keeps : ∀ name s, I s → I (e.loader.load name s).2 :=
    fun name s warm => .load e.loader name s.stats warm rfl rfl shared
  have included : Meaning.LoopFreeSources I (e.environment .unlimited) := by
    constructor
    · rintro _ ⟨⟩ name s warm
      exact keeps name s warm
    · rintro _ ⟨⟩ name s loaded warm gives
      exact free.isLoopFree_of_load shared empty steady warm gives
  have first := keeps name s warm
  have program (loaded : Loaded) (gives : (e.loader.load name s).1 = .ok loaded) :
      loaded.program.IsLoopFree :=
    free.isLoopFree_of_load shared empty steady warm gives
  unfold render
  generalize e.loader.load name s = loads at first program
  obtain ⟨result, t⟩ := loads
  cases result with
  | error error => exact ⟨0, _, rfl⟩
  | ok loaded =>
    obtain ⟨setting, library, same⟩ := included.exists_setting
    obtain ⟨fuel, o, ran⟩ := Machine.exists_run_sameOn same library unlimited included.keeps
      (program loaded rfl) vars first
    exact ⟨fuel, rendering o, by rw [runLoaded, ran]; rfl⟩

end Engine
end TemplateEngine
