import TemplateEngine.Proofs.Machine.Escaped
import TemplateEngine.Proofs.Machine.Reaches

/-!
# Escaping is sound

All templates are compiled with escaping and use no filter that marks a text as
safe. Then every safe text in every state of a run is composed of texts that
stand outside of tags in the templates that ran and of escaped texts, and so is
all that is written.
-/

namespace TemplateEngine

variable {templates : Set Template} {P : String → Prop} {l : Level}

namespace Machine

variable {ω : Type} {env : Environment ω} {m m' : Machine ω}

/-- A machine that is about to execute an instruction of a safe program. -/
structure Clean (templates : Set Template) (P : String → Prop) (m : Machine ω) : Prop where
  level : m.level.Ready templates P
  outer : ∀ w ∈ m.outer, w.level.Pending templates P
  accepted : ∀ text ∈ m.accepted, P text

/-- A machine that is about to go on behind an instruction. -/
structure Paused (templates : Set Template) (P : String → Prop) (m : Machine ω) : Prop where
  level : m.level.Pending templates P
  outer : ∀ w ∈ m.outer, w.level.Pending templates P
  accepted : ∀ text ∈ m.accepted, P text

theorem Clean.within (h : m.Clean templates P) : m.Within P :=
  ⟨h.level.toWithin, fun w member => (h.outer w member).toWithin, h.accepted⟩

theorem Paused.write {sink : Sink} {text : String} (h : m.Paused templates P) (given : P text)
    (written : m.write sink text = .ok m') : m'.Paused templates P := by
  unfold Machine.write at written
  split at written
  case h_1 level taken =>
    cases written
    exact { h with level := h.level.capture? given taken }
  case h_2 =>
    split at written
    case h_1 outer taken =>
      cases written
      exact ⟨{ h.level with }, Waiting.pending_capture? h.outer given taken, h.accepted⟩
    case h_2 =>
      split at written
      · cases written
      · cases written
        refine ⟨{ h.level with }, ?_, List.forall_mem_cons.mpr ⟨given, h.accepted⟩⟩
        intro w member
        obtain ⟨w, known, rfl⟩ := List.mem_map.mp member
        exact { h.outer w known with }

theorem Clean.includedVars {args : Value} {vars : Vars} (h : l.Within P) (given : args.Within P)
    (taken : includedVars l args = .ok vars) : Bindings.Within P vars :=
  Bindings.within_iff_all.mpr (h.all.includedVars (Value.within_iff_all.mp given) taken)

theorem Clean.start {loaded : Loaded} {vars : Vars} {depth : Nat} (unmarked : Unmarked templates)
    (escaped : EscapedFrom templates loaded.program) (given : Bindings.Within P vars) :
    (Level.start loaded vars depth).Ready templates P := by
  have scope : (Scope.ofVars vars).Within P :=
    Scope.within_iff_all.mpr (Scope.all_ofVars (Bindings.within_iff_all.mp given))
  exact Level.Clean.ready ⟨⟨nofun, scope, nofun⟩, escaped, nofun⟩ (escaped.quiet_start unmarked)

/-- What a clean effect leads to is clean. -/
theorem Clean.performs {effect : Effect} {progress : Progress ω} (h : m.Clean templates P)
    (unmarked : Unmarked templates) (loads : env.Escapes templates)
    (clean : effect.Clean templates P) (goes : m.Performs env effect progress) :
    (∀ m', progress = .inl m' → m'.Clean templates P) ∧
      ∀ o, progress = .inr o → ∀ text ∈ o.accepted, P text := by
  cases goes with
  | next level => exact ⟨by rintro _ ⟨⟩; exact ⟨clean, h.outer, h.accepted⟩, nofun⟩
  | @write text level m' written =>
    obtain ⟨given, pending⟩ := clean
    have before : ({ m with level := level } : Machine ω).Paused templates P :=
      ⟨pending, h.outer, h.accepted⟩
    have after := before.write given written
    exact ⟨by rintro _ ⟨⟩; exact ⟨after.level.ready, after.outer, after.accepted⟩, nofun⟩
  | refused _ => exact ⟨nofun, by rintro _ ⟨⟩; exact h.accepted⟩
  | enter source _ _ taken found =>
    obtain ⟨given, pending⟩ := clean
    refine ⟨?_, nofun⟩
    rintro _ ⟨⟩
    have escaped := loads _ source _ _ _ (congrArg Prod.fst found)
    have vars := Clean.includedVars pending.toWithin given taken
    exact ⟨Clean.start unmarked escaped vars, List.forall_mem_cons.mpr ⟨pending, h.outer⟩,
      h.accepted⟩
  | notFound _ _ => exact ⟨nofun, by rintro _ ⟨⟩; exact h.accepted⟩
  | blocked level e => exact ⟨nofun, by rintro _ ⟨⟩; exact h.accepted⟩
  | @leave level w rest outer =>
    refine ⟨?_, nofun⟩
    rintro _ ⟨⟩
    obtain ⟨first, later⟩ := List.forall_mem_cons.mp (outer ▸ h.outer)
    exact ⟨first.ready, later, h.accepted⟩
  | finish level none => exact ⟨nofun, by rintro _ ⟨⟩; exact h.accepted⟩
  | fail e level => exact ⟨nofun, by rintro _ ⟨⟩; exact h.accepted⟩

theorem Clean.step (h : m.Clean templates P) (unmarked : Unmarked templates)
    (loads : env.Escapes templates) (safe : SafeProperty P)
    (given : TextsHave templates P m.level.loaded.program) :
    (∀ m', m.step env = .inl m' → m'.Clean templates P) ∧
      ∀ o, m.step env = .inr o → ∀ text ∈ o.accepted, P text := by
  rcases step_cases env m with ⟨steps, e, ended⟩ | ⟨op, effect, fetched, does, goes⟩
  · rw [ended]
    exact ⟨nofun, by rintro _ ⟨⟩; exact h.accepted⟩
  · have op_safe := Level.safeOp_of_fetch unmarked h.level.program given fetched
    have clean := h.level.does safe op_safe does
    have later : ({ m with steps := m.steps + 1 } : Machine ω).Clean templates P := { h with }
    exact later.performs unmarked loads clean goes

/-- A run from a clean machine stays clean if the texts it meets have the property. -/
theorem Clean.reaches {n : Nat} (h : m.Clean templates P) (unmarked : Unmarked templates)
    (loads : env.Escapes templates) (safe : SafeProperty P)
    (given : ∀ k m', k < n → m.Reaches env k m' → TextsHave templates P m'.level.loaded.program)
    (reaches : m.Reaches env n m') : m'.Clean templates P := by
  induction reaches with
  | refl => exact h
  | @step n m m₁ m' first _ ih =>
    have here := given 0 m (Nat.zero_lt_succ n) (.refl m)
    apply ih ((h.step unmarked loads safe here).1 m₁ first)
    intro k m' lt later
    exact given (k + 1) m' (Nat.succ_lt_succ lt) (.step first later)

/-- The text stands outside of tags in a template of the set that runs within
some number of steps. -/
def ExecutedText (templates : Set Template) (env : Environment ω) (first : Machine ω) (n : Nat)
    (s : String) : Prop :=
  ∃ k m t source, k ≤ n ∧ first.Reaches env k m ∧ t ∈ templates ∧
    t.compile ⟨true⟩ source = .ok m.level.loaded.program ∧ s ∈ t.texts

/-- A program that a machine has reached has only texts that are executed. -/
theorem textsHave_executed {first : Machine ω} {n k : Nat} (le : n ≤ k)
    (reaches : first.Reaches env n m) :
    TextsHave templates (Composed (ExecutedText templates env first k)) m.level.loaded.program :=
  fun t member source compiled _ known =>
    .of_text ⟨n, m, t, source, le, reaches, member, compiled, known⟩

theorem clean_of_reaches {n k : Nat} {loaded : Loaded} {vars : Vars} {surroundings : ω}
    (unmarked : Unmarked templates) (loads : env.Escapes templates)
    (escaped : EscapedFrom templates loaded.program) (plain : ∀ entry ∈ vars, entry.2.raws = [])
    (reaches : (start loaded vars surroundings).Reaches env n m) (le : n ≤ k) :
    m.Clean templates
      (Composed (ExecutedText templates env (start loaded vars surroundings) k)) := by
  have given : Bindings.Within
      (Composed (ExecutedText templates env (start loaded vars surroundings) k)) vars :=
    fun entry member => Value.within_of_raws (plain entry member)
  have first : (start loaded vars surroundings).Clean templates _ :=
    ⟨Clean.start unmarked escaped given, nofun, nofun⟩
  refine first.reaches unmarked loads (safeProperty_composed _) ?_ reaches
  intro j m' lt later
  exact textsHave_executed (Nat.le_trans (Nat.le_of_lt lt) le) later

/-- Every safe text in every state of a run, and all that a run writes, however it
ends, is composed of texts of the executed templates and of escaped texts. So what
has a meaning in HTML stands in a text of an executed template. -/
theorem autoEscape_sound {loaded : Loaded} {vars : Vars} (surroundings : ω)
    (unmarked : Unmarked templates) (loads : env.Escapes templates)
    (escaped : EscapedFrom templates loaded.program)
    (plain : ∀ entry ∈ vars, entry.2.raws = []) :
    (∀ n m, (start loaded vars surroundings).Reaches env n m →
      m.Within (Composed (ExecutedText templates env (start loaded vars surroundings) n))) ∧
    ∀ fuel o, run env fuel (start loaded vars surroundings) = some o →
      Composed (ExecutedText templates env (start loaded vars surroundings) fuel) o.output ∧
      ∀ before c after, o.output.toList = before ++ c :: after →
        (c ∈ ['<', '>', '"', '\''] ∨
          c = '&' ∧ ∀ tail ∈ Text.entityTails, ¬ tail <+: after) →
        ∃ t x y, ExecutedText templates env (start loaded vars surroundings) fuel t ∧
          t.toList = x ++ c :: y ∧ x <:+ before ∧ y <+: after := by
  constructor
  · intro n m reaches
    exact (clean_of_reaches unmarked loads escaped plain reaches (Nat.le_refl n)).within
  · intro fuel o ended
    obtain ⟨n, m, lt, reaches, last⟩ := run_eq_some_iff.mp ended
    have le := Nat.le_of_lt lt
    have clean := clean_of_reaches unmarked loads escaped plain reaches le
    have written := (clean.step unmarked loads (safeProperty_composed _)
      (textsHave_executed le reaches)).2 o last
    have composed := Composed.join fun text member => written text (List.mem_reverse.mp member)
    exact ⟨composed, fun before c after split meaning => composed.markup split meaning⟩

end Machine

namespace Greeting

/-- A page that includes another template. -/
def page : Template := ⟨"page", [.text "<b>", .inclusion (.literal (.str "who")) []]⟩

def who : Template := ⟨"who", [.print (.var "name")]⟩

def pageProgram : Program where
  name := "page"
  constants := #[.str "<b>", .str "who"]
  names := #[]
  macros := #[]
  instructions := #[.constLoad 0, .print .raw, .constLoad 1, .makeMap 0, .inclusion, .finish]

def whoProgram : Program where
  name := "who"
  constants := #[]
  names := #["name"]
  macros := #[]
  instructions := #[.loadVar 0, .print .html, .finish]

def environment : Environment Unit where
  options := {}
  source := some fun _ s => (.ok ⟨1, whoProgram⟩, s)
  sink := .unlimited

/-- The page for a name that holds markup. -/
def first : Machine Unit := .start ⟨0, pageProgram⟩ [("name", .str "<i>")] ()

theorem autoEscape_page :
    (Machine.run environment 20 first).map Outcome.output = some "<b>&lt;i&gt;" ∧
      ∀ o, Machine.run environment 20 first = some o →
        Composed (Machine.ExecutedText {page, who} environment first 20) o.output := by
  refine ⟨by decide +kernel, ?_⟩
  intro o ended
  refine ((Machine.autoEscape_sound () ?_ ?_ ?_ ?_).2 20 o ended).1
  · rintro t (rfl | rfl) name known
    · cases known
    · cases known
  · rintro _ ⟨⟩ name surroundings loaded ⟨⟩
    exact ⟨who, .inr rfl, "", rfl⟩
  · exact ⟨page, .inl rfl, "", rfl⟩
  · rintro entry known
    obtain rfl := List.mem_singleton.mp known
    rfl

end Greeting
end TemplateEngine
