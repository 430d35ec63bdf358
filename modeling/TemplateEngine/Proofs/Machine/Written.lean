import TemplateEngine.Proofs.Machine.Reaches
import TemplateEngine.Proofs.Machine.Execute

/-!
# The count of bytes written

Only what passes all macro calls and levels is counted at the outermost level,
and that is what the sink takes. So the count of a whole run is the number of
bytes that the sink has taken, also when the run ends in an error.
-/

namespace TemplateEngine

/-- The level of an effect. -/
def Effect.level : Effect → Level
  | .next level | .write _ level | .enter _ _ level | .finish level | .fail _ level => level

/-- Executing an operation counts nothing by itself. -/
theorem Level.Does.written {options : ExecutionOptions} {l : Level} {op : Program.Resolved}
    {effect : Effect} (h : l.Does options op effect) : effect.level.written = l.written := by
  cases h <;> rfl

/-- The bytes of some texts together. -/
def byteCount (texts : List String) : Nat :=
  texts.foldr (fun text n => text.utf8ByteSize + n) 0

/-- The level that has the others inside of it. -/
def Waiting.outermost (level : Level) (waiting : List Waiting) : Level :=
  (waiting.getLast?.map Waiting.level).getD level

namespace Waiting

@[simp] theorem outermost_nil (level : Level) : outermost level [] = level := rfl

@[simp] theorem outermost_cons (level : Level) (w : Waiting) (rest : List Waiting) :
    outermost level (w :: rest) = outermost w.level rest := by
  cases rest with
  | nil => rfl
  | cons w' rest =>
    have last : (w' :: rest).getLast? ≠ none := by simp
    obtain ⟨found, eq⟩ := Option.ne_none_iff_exists'.mp last
    simp [outermost, List.getLast?_cons_cons, eq]

/-- The count of the outermost level depends on that of the innermost one. -/
theorem written_outermost {level level' : Level} (h : level'.written = level.written)
    (waiting : List Waiting) :
    (outermost level' waiting).written = (outermost level waiting).written := by
  cases waiting with
  | nil => exact h
  | cons w rest => simp

/-- What is captured does not pass the outermost level. -/
theorem written_capture? {text : String} {waiting waiting' : List Waiting}
    (h : capture? text waiting = some waiting') (level level' : Level) :
    (outermost level' waiting').written = (outermost level waiting).written := by
  induction waiting generalizing waiting' level level' with
  | nil => cases h
  | cons w rest ih =>
    rw [capture?] at h
    split at h
    case h_1 taking taken =>
      obtain rfl := Option.some.inj h
      rw [outermost_cons, outermost_cons]
      refine written_outermost ?_ rest
      unfold Level.capture? at taken
      split at taken
      · cases taken
      · cases taken
        rfl
    case h_2 =>
      obtain ⟨others, captured, rfl⟩ := Option.map_eq_some_iff.mp h
      rw [outermost_cons, outermost_cons]
      exact ih captured w.level (w.level.pass text)

theorem written_passAll (text : String) (level : Level) (waiting : List Waiting) :
    (outermost (level.pass text) (passAll text waiting)).written
      = (outermost level waiting).written + text.utf8ByteSize := by
  induction waiting generalizing level with
  | nil => rfl
  | cons w rest ih =>
    rw [passAll, List.map_cons, outermost_cons, outermost_cons]
    exact ih w.level

end Waiting

namespace Machine

variable {ω : Type} {env : Environment ω} {m m' : Machine ω} {o : Outcome ω}

/-- The outermost level has counted what the sink has taken. -/
def Counted (m : Machine ω) : Prop :=
  (Waiting.outermost m.level m.outer).written = byteCount m.accepted

theorem counted_start (loaded : Loaded) (vars : Vars) (surroundings : ω) :
    (start loaded vars surroundings).Counted := rfl

theorem Counted.withLevel {l : Level} (h : m.Counted) (same : l.written = m.level.written) :
    ({ m with level := l } : Machine ω).Counted :=
  (Waiting.written_outermost same m.outer).trans h

theorem Counted.write {sink : Sink} {text : String} (h : m.Counted)
    (written : m.write sink text = .ok m') : m'.Counted := by
  unfold Machine.write at written
  split at written
  case h_1 level taken =>
    cases written
    refine h.withLevel ?_
    unfold Level.capture? at taken
    split at taken
    · cases taken
    · cases taken
      rfl
  case h_2 =>
    split at written
    case h_1 outer taken =>
      cases written
      exact (Waiting.written_capture? taken m.level (m.level.pass text)).trans h
    case h_2 =>
      split at written
      · cases written
      case h_2 =>
        cases written
        have counted : (Waiting.outermost m.level m.outer).written = byteCount m.accepted := h
        have more := Waiting.written_passAll text m.level m.outer
        rw [counted, Nat.add_comm] at more
        exact more

/-- What keeps the count of the innermost level in front of an effect keeps it
behind the effect, at the end of a run too. -/
theorem Counted.performs {effect : Effect} {progress : Progress ω} (h : m.Counted)
    (same : effect.level.written = m.level.written) (goes : m.Performs env effect progress) :
    (∀ m', progress = .inl m' → m'.Counted) ∧
      ∀ o, progress = .inr o → o.level.written = byteCount o.accepted := by
  have here : (Waiting.outermost effect.level m.outer).written = byteCount m.accepted :=
    h.withLevel same
  cases goes with
  | next level => exact ⟨by rintro _ ⟨⟩; exact here, nofun⟩
  | write written =>
    have after : Counted _ := Counted.write (h.withLevel same) written
    exact ⟨by rintro _ ⟨⟩; exact after.withLevel rfl, nofun⟩
  | refused _ => exact ⟨nofun, by rintro _ ⟨⟩; exact here⟩
  | enter _ _ _ _ _ =>
    refine ⟨?_, nofun⟩
    rintro _ ⟨⟩
    rw [Counted, Waiting.outermost_cons]
    exact here
  | notFound _ _ => exact ⟨nofun, by rintro _ ⟨⟩; exact here⟩
  | blocked level e => exact ⟨nofun, by rintro _ ⟨⟩; exact here⟩
  | @leave level w rest outer =>
    refine ⟨?_, nofun⟩
    rintro _ ⟨⟩
    rw [outer, Waiting.outermost_cons] at here
    have same : w.level.advance.written = w.level.written := rfl
    exact (Waiting.written_outermost same rest).trans here
  | finish level none =>
    refine ⟨nofun, ?_⟩
    rintro _ ⟨⟩
    rw [none] at here
    exact here
  | fail e level => exact ⟨nofun, by rintro _ ⟨⟩; exact here⟩

theorem Counted.step (h : m.Counted) :
    (∀ m', m.step env = .inl m' → m'.Counted) ∧
      ∀ o, m.step env = .inr o → o.level.written = byteCount o.accepted := by
  rcases step_cases env m with ⟨steps, e, ended⟩ | ⟨op, effect, -, does, goes⟩
  · rw [ended]
    exact ⟨nofun, by rintro _ ⟨⟩; exact h⟩
  · have later : ({ m with steps := m.steps + 1 } : Machine ω).Counted := h
    exact later.performs does.written goes

/-- The count of a run is the number of bytes that the sink has taken. -/
theorem written_of_run {fuel : Nat} {loaded : Loaded} {vars : Vars} {surroundings : ω}
    (ended : run env fuel (start loaded vars surroundings) = some o) :
    o.level.written = byteCount o.accepted := by
  obtain ⟨n, m, -, reaches, last⟩ := run_eq_some_iff.mp ended
  have counted : m.Counted :=
    reaches.preserves (fun h first => h.step.1 _ first) (counted_start loaded vars surroundings)
  exact counted.step.2 o last

end Machine
end TemplateEngine
