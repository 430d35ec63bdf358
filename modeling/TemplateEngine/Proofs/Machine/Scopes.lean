import TemplateEngine.Proofs.Machine.Discipline
import TemplateEngine.Proofs.Machine.Origins
import TemplateEngine.Proofs.Scope.Below

/-!
# The scopes of all levels

Of all the scopes of a machine, a step changes the one of the level that runs, if any.
So a frame that is pushed at a level keeps all frames below it as they are, up to the
step that takes it off.
-/

namespace TemplateEngine
namespace Machine

variable {ω : Type}

/-- The scopes of all levels, innermost first. -/
def scopes (m : Machine ω) : List Scope := m.levels.map Level.scope

/-- The scope of the level with `k` levels around it. -/
def scopeAt? (m : Machine ω) (k : Nat) : Option Scope := m.scopes.reverse[k]?

/-- The step from `m` to `m'` changes the level that runs in `m` to `l`. -/
structure Changes (env : Environment ω) (m : Machine ω) (l : Level) (m' : Machine ω) : Prop where
  does : ∃ op, m.level.fetch = .ok op ∧ m.level.Does env.options op (.next l)
  result : m' = { m with steps := m.steps + 1, level := l }

variable {env : Environment ω} {m m' m'' m₁ : Machine ω} {k i n j : Nat} {s : Scope}
  {P Q : Machine ω → Prop}

@[simp] theorem length_scopes (m : Machine ω) : m.scopes.length = m.outer.length + 1 := by
  simp [scopes, levels]

theorem scopeAt?_eq (m : Machine ω) (k : Nat) : m.scopeAt? k = (m.levelAt? k).map Level.scope := by
  rw [scopeAt?, levelAt?, scopes, ← List.map_reverse, List.getElem?_map]

@[simp] theorem scopeAt?_running (m : Machine ω) : m.scopeAt? m.outer.length = some m.level.scope := by
  simp [scopeAt?, scopes, levels]

theorem hasFrame_iff : m.HasFrame k i ↔ ∃ s, m.scopeAt? k = some s ∧ i < s.depth := by
  simp [HasFrame, scopeAt?_eq]

theorem le_of_scopeAt? (found : m.scopeAt? k = some s) : k ≤ m.outer.length := by
  have place := (List.getElem?_eq_some_iff.mp found).1
  rw [List.length_reverse, length_scopes] at place
  exact Nat.le_of_lt_succ place

theorem scopes_of_sameButOutput (same : m.SameButOutput m') : m'.scopes = m.scopes := by
  have level : m'.level.scope = m.level.scope := (congrArg Level.scope same.level :)
  have outer := congrArg (List.map fun w : Waiting => w.level.scope) same.outer
  rw [List.map_map, List.map_map] at outer
  simp only [scopes, levels, List.map_cons, List.map_map, level]
  exact congrArg _ outer

/-- What a step does to the scopes. -/
theorem scopes_of_step (first : m.step env = .inl m') :
    (∃ l, m.Changes env l m') ∨ m'.scopes = m.scopes ∨
      m.Starts env m' ∧ m'.scopes = m'.level.scope :: m.scopes ∨
      m.level.fetch = .ok .finish ∧ m.scopes = m.level.scope :: m'.scopes := by
  obtain ⟨op, effect, fetched, does, goes⟩ := exists_of_step first
  cases goes with
  | next level => exact .inl ⟨level, ⟨op, fetched, does⟩, rfl⟩
  | write written =>
    cases does
    have same := scopes_of_sameButOutput (sameButOutput_of_write written)
    exact .inr (.inl (by simpa [scopes, levels, Level.advance] using same))
  | enter source _ _ taken found =>
    refine .inr (.inr (.inl ⟨.intro fetched does source taken found rfl rfl, ?_⟩))
    cases does
    rfl
  | @leave level w rest outer =>
    refine .inr (.inr (.inr ?_))
    have outer : m.outer = w :: rest := outer
    cases does
    refine ⟨fetched, ?_⟩
    simp [scopes, levels, outer, Level.advance]

/-- A step leaves the scope of a level that is still there, unless that level runs. -/
theorem scopeAt?_step (first : m.step env = .inl m') (there : k ≤ m'.outer.length)
    (found : m.scopeAt? k = some s) :
    m'.scopeAt? k = some s ∨ m.outer.length = k ∧ ∃ l, m.Changes env l m' := by
  have live := le_of_scopeAt? found
  rcases scopes_of_step first with ⟨l, changes⟩ | same | ⟨-, more⟩ | ⟨-, fewer⟩
  · by_cases running : m.outer.length = k
    · exact .inr ⟨running, l, changes⟩
    · obtain rfl := changes.result
      refine .inl ?_
      simp only [scopeAt?, scopes, levels, List.map_cons, List.reverse_cons] at found ⊢
      rw [List.getElem?_append_left (by simp; omega)] at found ⊢
      exact found
  · refine .inl ?_
    rwa [scopeAt?, same]
  · refine .inl ?_
    rw [scopeAt?, more, List.reverse_cons, List.getElem?_append_left (by simp; omega)]
    exact found
  · refine .inl ?_
    rw [scopeAt?, fewer, List.reverse_cons, List.getElem?_append_left (by simp; omega)] at found
    exact found

/-- The other way round: where the scope of a level comes from. -/
theorem scopeAt?_back (first : m.step env = .inl m') (found : m'.scopeAt? k = some s) :
    m.scopeAt? k = some s ∨ m.outer.length = k ∧ (∃ l, m.Changes env l m') ∨
      m'.outer.length = k ∧ m.Starts env m' := by
  have live := le_of_scopeAt? found
  rcases scopes_of_step first with ⟨l, changes⟩ | same | ⟨starts, more⟩ | ⟨-, fewer⟩
  · by_cases running : m.outer.length = k
    · exact .inr (.inl ⟨running, l, changes⟩)
    · obtain rfl := changes.result
      refine .inl ?_
      have inner : k < m.outer.length := Nat.lt_of_le_of_ne live (Ne.symm running)
      simp only [scopeAt?, scopes, levels, List.map_cons, List.reverse_cons] at found ⊢
      rw [List.getElem?_append_left (by simpa using inner)] at found ⊢
      exact found
  · refine .inl ?_
    rwa [scopeAt?, ← same]
  · by_cases entered : m'.outer.length = k
    · exact .inr (.inr ⟨entered, starts⟩)
    · refine .inl ?_
      have size := congrArg List.length more
      simp only [length_scopes, List.length_cons] at size
      rw [scopeAt?, more, List.reverse_cons, List.getElem?_append_left (by simp; omega)] at found
      exact found
  · refine .inl ?_
    have inner : k < m'.scopes.reverse.length := by simpa using Nat.lt_succ_of_le live
    rw [scopeAt?, fewer, List.reverse_cons, List.getElem?_append_left inner]
    exact found

end Machine
end TemplateEngine
