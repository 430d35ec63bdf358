import TemplateEngine.Engine
import TemplateEngine.Proofs.Loader.Warm
import TemplateEngine.Proofs.Machine.Execute

/-!
# Caches do not show in what is rendered

A template renders the same through any cache, cold or warm, as long as no macro of
one run of a template gets into another run of it and is called or compared there.
Without a cache each run has an identity of its own and such a call is refused; with
one the runs may share an identity, and the call goes through.
-/

namespace TemplateEngine

/-- What a render shows, apart from the state that it leaves behind. -/
def Rendering.result (r : Rendering) : String × Nat × Option Error := (r.output, r.written, r.error)

theorem Outcome.Alike.result {o o' : Outcome LoaderState} (h : o.Alike o') :
    (Engine.rendering o).result = (Engine.rendering o').result := by
  rw [Rendering.result, Rendering.result, Engine.rendering, Engine.rendering]
  dsimp only
  rw [Outcome.output, Outcome.output, h.accepted, h.written, h.error]

/-- The identity was given out, and no entry in memory has it. -/
structure Storage.Retired (s : Storage) (i : Nat) : Prop where
  below : i < s.nextId
  absent : ∀ name entry, s.memory.get? name = some entry → entry.loaded.id ≠ i

namespace Loader

/-- A loader without a cache and another one, at storages that both were filled with
the same templates. -/
structure InStep (l : Loader) (dirs : Set String) (cold : Storage) (K : Links) (s s' : LoaderState) :
    Prop where
  warm : l.Warms dirs cold s.storage
  warm' : l.Warms dirs cold s'.storage
  sound : K.Sound s.storage s'.storage

variable {l l' : Loader} {dirs : Set String} {cold : Storage} {K : Links} {s s' : LoaderState}
  {name : String}

theorem name_of_compiled {text : String} {p : Program} (gives : l.compiled name text = .ok p) :
    p.name = name := by
  obtain ⟨t, parsed, compiled⟩ := compiled_eq_ok.mp gives
  unfold Template.parse at parsed
  unfold Template.compile at compiled
  dsimp only at parsed
  split at parsed
  · cases parsed
    split at compiled
    · cases compiled
      rfl
    · cases compiled
  · cases parsed

theorem name_of_current {p : Program} (gives : l.current cold name = .ok p) : p.name = name := by
  unfold current at gives
  split at gives
  · cases gives
  · exact name_of_compiled gives

theorem InStep.load (h : l.InStep dirs cold K s s') (empty : cold.Cold dirs) (steady : l.Steady dirs cold)
    (strategy : l.options.strategy = .none) (shared : l.cache.Shared dirs)
    (source : l'.source = l.source) (compilation : l'.compilation = l.compilation)
    (shared' : l'.cache.Shared dirs) (name : String) :
    (∃ e t t', l.load name s = (.error e, t) ∧ l'.load name s' = (.error e, t')) ∨
    ∃ i j p t t', l.load name s = (.ok ⟨i, p⟩, t) ∧ l'.load name s' = (.ok ⟨j, p⟩, t') ∧
      p.name = name ∧ l.InStep dirs cold (K.add i j name) t t' := by
  have loads := l.load_loads shared name s
  have loads' := l'.load_loads shared' name s'
  have warm : l.Warms dirs cold (l.load name s).2.storage := .load l name s.stats h.warm rfl rfl shared
  have warm' : l.Warms dirs cold (l'.load name s').2.storage :=
    .load l' name s'.stats h.warm' source compilation shared'
  have program := h.warm.program empty steady rfl rfl loads
  have alike := h.warm.load_alike h.warm' empty steady rfl rfl source compilation loads loads'
  generalize l.load name s = r at loads warm program alike
  generalize l'.load name s' = r' at loads' warm' alike
  obtain ⟨result, t⟩ := r
  obtain ⟨result', t'⟩ := r'
  dsimp only at loads loads' warm warm' program alike
  cases alike with
  | error e => exact .inl ⟨e, t, t', rfl, rfl⟩
  | @ok loaded loaded' same =>
    have sound := h.sound.add strategy (h.warm'.numbered empty) loads loads'
    obtain ⟨i, p⟩ := loaded
    obtain ⟨j, p'⟩ := loaded'
    obtain rfl : p' = p := same
    exact .inr ⟨i, j, p', t, t', rfl, rfl, name_of_current program.symm, warm, warm', sound⟩

end Loader

namespace Engine

/-- The same engine with no use of its cache. -/
def uncached (e : Engine) : Engine := { e with loader := e.loader.uncached }

/-- Engines for the same templates, with the same settings but for those of caches. -/
structure Alike (e e' : Engine) : Prop where
  source : e'.loader.source = e.loader.source
  compilation : e'.loader.compilation = e.loader.compilation
  execution : e'.execution = e.execution

/-- In the render no macro that belongs to one run of a template is called in another
run of it, nor is such a macro compared where it would matter which run it belongs to. -/
def Unmixed (e : Engine) (name : String) (vars : Vars) (s : LoaderState) : Prop :=
  ∀ loaded t, e.loader.load name s = (.ok loaded, t) →
    Machine.Unmixed (e.environment .unlimited) (.start loaded vars t)

variable {e e' : Engine} {dirs : Set String} {cold : Storage} {s s' : LoaderState} {vars : Vars}

theorem agree_environment (same : e.Alike e') (strategy : e.loader.options.strategy = .none)
    (shared : e.loader.cache.Shared dirs) (shared' : e'.loader.cache.Shared dirs)
    (empty : cold.Cold dirs) (steady : e.loader.Steady dirs cold) :
    (e.environment .unlimited).Agree (e.loader.InStep dirs cold) (e'.environment .unlimited) := by
  refine ⟨same.execution, rfl, fun h => h.sound.coherent, e.loader.load, e'.loader.load, rfl, rfl, ?_⟩
  intro K s s' name h
  exact h.load empty steady strategy shared same.source same.compilation shared' name

/-- The links before the first load: programs that macros in the variables belong to. -/
def foreignLinks (vars : Vars) : Links := fun i j owner =>
  i = j ∧ owner = none ∧ i ∈ Value.programsOfEntries vars

theorem sound_foreignLinks {s s' : Storage}
    (retired : ∀ i ∈ Value.programsOfEntries vars, s.Retired i ∧ s'.Retired i) :
    (foreignLinks vars).Sound s s' := by
  refine ⟨⟨?_, ?_, ?_⟩, ?_, ?_⟩
  · rintro i j j' o o' ⟨rfl, -, -⟩ ⟨rfl, -, -⟩
    rfl
  · rintro i i' j o o' ⟨-, rfl, -⟩ ⟨-, rfl, -⟩
    rfl
  · rintro i j ⟨rfl, -, -⟩
    rfl
  · rintro i j o ⟨rfl, -, known⟩
    obtain ⟨old, old'⟩ := retired i known
    exact ⟨old.below, old'.below⟩
  · rintro i j o name entry ⟨rfl, -, known⟩ kept same
    exact absurd same ((retired i known).2.absent name entry kept)

/-- Rendering without a cache and with one shows the same. -/
theorem render_strategy_none (same : e.Alike e') (strategy : e.loader.options.strategy = .none)
    (shared : e.loader.cache.Shared dirs) (shared' : e'.loader.cache.Shared dirs)
    (empty : cold.Cold dirs) (steady : e.loader.Steady dirs cold)
    (warm : e.loader.Warms dirs cold s.storage) (warm' : e.loader.Warms dirs cold s'.storage)
    (retired : ∀ i ∈ Value.programsOfEntries vars, s.storage.Retired i ∧ s'.storage.Retired i)
    {name : String} (unmixed : e.Unmixed name vars s) (fuel : Nat) :
    (e.render fuel name vars s).map Rendering.result = (e'.render fuel name vars s').map Rendering.result := by
  have start : e.loader.InStep dirs cold (foreignLinks vars) s s' := ⟨warm, warm', sound_foreignLinks retired⟩
  have agree := agree_environment same strategy shared shared' empty steady
  rw [Engine.render, Engine.render]
  rcases start.load empty steady strategy shared same.source same.compilation shared' name with
    ⟨error, t, t', fails, fails'⟩ | ⟨i, j, p, t, t', gives, gives', named, inv⟩
  · rw [fails, fails']
    rfl
  · rw [gives, gives']
    have quiet := unmixed _ _ gives
    have first : Machine.Lockstep (e.environment .unlimited) (.start ⟨i, p⟩ vars t)
        (e.loader.InStep dirs cold) ((foreignLinks vars).add i j name)
        (.start ⟨i, p⟩ vars t) (.start ⟨j, p⟩ vars t') := by
      have more := (foreignLinks vars).add_mono i j name
      have foreign : Bindings.Alike (foreignLinks vars).Linked vars vars :=
        Value.entries_alike_self vars fun k known => ⟨none, rfl, rfl, known⟩
      refine ⟨⟨?_, .nil, rfl, rfl⟩, inv, ?_⟩
      · apply Level.alike_start
        · rfl
        · exact (foreignLinks vars).linked_add i j name
        · exact Value.entries_mono more foreign
      · rintro i' j' name' (⟨-, unowned, -⟩ | ⟨rfl, -, same⟩)
        · cases unowned
        · obtain rfl := Option.some.inj same
          exact ⟨0, _, .refl _, rfl, named⟩
    have outcomes := first.run_alike agree quiet (.refl _) fuel
    rw [runLoaded, runLoaded]
    generalize (Machine.start ⟨i, p⟩ vars t).run _ fuel = o at outcomes
    generalize (Machine.start ⟨j, p⟩ vars t').run _ fuel = o' at outcomes
    cases outcomes with
    | none => rfl
    | some alike => exact congrArg some alike.result

/-- Two engines that differ in how they use caches show the same, whatever was
rendered before. -/
theorem render_transparent (same : e.Alike e') (shared : e.loader.cache.Shared dirs)
    (shared' : e'.loader.cache.Shared dirs) (empty : cold.Cold dirs)
    (steady : e.loader.Steady dirs cold) (warm : e.loader.Warms dirs cold s.storage)
    (warm' : e.loader.Warms dirs cold s'.storage)
    (retired : ∀ i ∈ Value.programsOfEntries vars, s.storage.Retired i ∧ s'.storage.Retired i)
    {name : String} (unmixed : e.uncached.Unmixed name vars s) (fuel : Nat) :
    (e.render fuel name vars s).map Rendering.result = (e'.render fuel name vars s').map Rendering.result := by
  have plain : e.uncached.Alike e := ⟨rfl, rfl, rfl⟩
  have other : e.uncached.Alike e' := ⟨same.source, same.compilation, same.execution⟩
  have steady₀ : e.uncached.loader.Steady dirs cold := steady.congr rfl rfl
  have warm₀ : e.uncached.loader.Warms dirs cold s.storage := warm.congr rfl rfl
  have warm₀' : e.uncached.loader.Warms dirs cold s'.storage := warm'.congr rfl rfl
  have retired₀ : ∀ i ∈ Value.programsOfEntries vars, s.storage.Retired i ∧ s.storage.Retired i :=
    fun i known => ⟨(retired i known).1, (retired i known).1⟩
  have here := render_strategy_none plain rfl shared shared empty steady₀ warm₀ warm₀ retired₀ unmixed fuel
  have there := render_strategy_none other rfl shared shared' empty steady₀ warm₀ warm₀' retired unmixed fuel
  exact here.symm.trans there

/-- A render leaves warm caches behind, if the caches were warm or cold before. -/
theorem warms_render {l : Loader} (source : e.loader.source = l.source)
    (compilation : e.loader.compilation = l.compilation) (shared : e.loader.cache.Shared dirs)
    (warm : l.Warms dirs cold s.storage) {fuel : Nat} {name : String} {r : Rendering}
    (ended : e.render fuel name vars s = some r) : l.Warms dirs cold r.state.storage := by
  have keeps : ∀ name s, l.Warms dirs cold s.storage →
      l.Warms dirs cold (e.loader.load name s).2.storage :=
    fun name s warm => .load e.loader name s.stats warm source compilation shared
  have first := keeps name s warm
  unfold Engine.render at ended
  generalize e.loader.load name s = loads at first ended
  obtain ⟨result, t⟩ := loads
  cases result with
  | error error =>
    cases ended
    exact first
  | ok loaded =>
    obtain ⟨o, run, rfl⟩ := Option.map_eq_some_iff.mp ended
    refine Machine.run_surroundings (P := fun t => l.Warms dirs cold t.storage) ?_ first run
    rintro _ ⟨⟩ name s warm
    exact keeps name s warm

/-- A check of a whole render, step by step. -/
def staysApart (fuel : Nat) (e : Engine) (name : String) (vars : Vars) (s : LoaderState) : Bool :=
  match e.loader.load name s with
  | (.error _, _) => true
  | (.ok loaded, t) => Machine.staysApart (e.environment .unlimited) fuel (.start loaded vars t)

theorem unmixed_of_staysApart {fuel : Nat} {name : String}
    (apart : e.staysApart fuel name vars s = true) : e.Unmixed name vars s := by
  intro loaded t gives
  unfold staysApart at apart
  rw [gives] at apart
  exact Machine.unmixed_of_staysApart apart

/-- The state that a render leaves behind, if it ends. -/
def stateAfter (fuel : Nat) (e : Engine) (name : String) (vars : Vars) (s : LoaderState) : LoaderState :=
  ((e.render fuel name vars s).map Rendering.state).getD s

theorem warms_stateAfter {l : Loader} (source : e.loader.source = l.source)
    (compilation : e.loader.compilation = l.compilation) (shared : e.loader.cache.Shared dirs)
    (warm : l.Warms dirs cold s.storage) (fuel : Nat) (name : String) (vars : Vars) :
    l.Warms dirs cold (e.stateAfter fuel name vars s).storage := by
  unfold stateAfter
  cases ended : e.render fuel name vars s with
  | none => exact warm
  | some r => exact warms_render source compilation shared warm ended

end Engine

namespace SelfInclusion

/-- A template that includes itself, and calls its macro in the inner run only. -/
def passing : String :=
  "[% IF depth == 1 %][% m() %][% ELSE %][% MACRO m BLOCK %]x[% END %]" ++
    "[% INCLUDE 'main.tx' WITH depth = 1 %][% END %]"

/-- A template that includes itself, and compares the macros of both runs. -/
def comparing : String :=
  "[% MACRO m BLOCK %]x[% END %][% IF outer %][% m == outer %]" ++
    "[% ELSE %][% INCLUDE 'main.tx' WITH outer = m %][% END %]"

/-- A template that includes itself, each run of which calls a macro of its own. -/
def calling : String :=
  "[% MACRO m BLOCK %]x[% END %][% m() %]" ++
    "[% IF again %][% INCLUDE 'main.tx' WITH again = '' %][% END %]"

def engine (strategy : CacheStrategy) : Engine where
  loader :=
    { source := .memory
      cache := .memory
      dialect := .tterse
      compilation := ⟨true⟩
      options := { strategy := strategy } }
  execution := {}

def start (text : String) : LoaderState := .start { Storage.empty with templates := [("main.tx", text)] }

/-- The output of the first render of a template, and whether it failed. -/
def firstRender (strategy : CacheStrategy) (text : String) (vars : Vars) : Option (String × Bool) :=
  ((engine strategy).render 100 "main.tx" vars (start text)).map fun r => (r.output, r.error.isSome)

/-- With a cache both runs have one identity: the call goes through, and the macros are
equal. -/
theorem render_depends_on_strategy :
    firstRender .none passing [("depth", .int 0)] = some ("", true) ∧
    firstRender .memoryOnly passing [("depth", .int 0)] = some ("x", false) ∧
    firstRender .none comparing [("outer", .undef)] = some ("false", false) ∧
    firstRender .memoryOnly comparing [("outer", .undef)] = some ("true", false) := by
  decide +kernel

def again : Vars := [("again", .bool true)]

/-- The state after a render through a cache. -/
def warmed : LoaderState :=
  (engine .memoryOnly).stateAfter 100 "main.tx" again (start calling)

theorem warms_warmed : (engine .freshnessChecked).loader.Warms ∅ (start calling).storage warmed.storage := by
  have before : (engine .freshnessChecked).loader.Warms ∅ (start calling).storage (start calling).storage :=
    .refl _
  have source : (engine .memoryOnly).loader.source = (engine .freshnessChecked).loader.source := rfl
  have compilation : (engine .memoryOnly).loader.compilation = (engine .freshnessChecked).loader.compilation :=
    rfl
  have after := Engine.warms_stateAfter source compilation .memory before 100 "main.tx" again
  unfold warmed
  exact after

theorem unmixed_calling :
    (engine .freshnessChecked).uncached.Unmixed "main.tx" again (start calling) := by
  have apart : (engine .freshnessChecked).uncached.staysApart 100 "main.tx" again (start calling) = true := by
    decide +kernel
  exact Engine.unmixed_of_staysApart apart

theorem render_calling :
    ((engine .freshnessChecked).render 100 "main.tx" again (start calling)).map Rendering.result =
      ((engine .memoryOnly).render 100 "main.tx" again warmed).map Rendering.result := by
  have same : (engine .freshnessChecked).Alike (engine .memoryOnly) := ⟨rfl, rfl, rfl⟩
  have empty : (start calling).storage.Cold ∅ := Storage.cold_of_empty rfl rfl
  have steady : (engine .freshnessChecked).loader.Steady ∅ (start calling).storage :=
    Loader.steady_memory rfl
  have retired : ∀ i ∈ Value.programsOfEntries again,
      (start calling).storage.Retired i ∧ warmed.storage.Retired i := by
    intro i known
    cases known
  exact Engine.render_transparent same .memory .memory empty steady (.refl _) warms_warmed retired
    unmixed_calling 100

end SelfInclusion
end TemplateEngine
