import TemplateEngine.Proofs.Meaning.Nodes

/-!
# Programs mean what their templates mean

Running the program of a template on the machine and interpreting the template
give the same: one ends if the other does, with the same texts written, the same
count of bytes, the same error and the same surroundings. Only the bound on the
steps of a run, which trees do not have, can cut the machine off.
-/

namespace TemplateEngine
namespace Meaning

variable {ω : Type}

/-- Whatever the fuel, the machine does what interpreting does. -/
theorem simulates_interpret (setting : Setting ω) (fuel : Nat) :
    Simulates setting fuel (interpret setting fuel) := by
  induction fuel with
  | zero =>
    intro place full site start first body ops m stack s _ _ _ _ _
    exact ⟨0, m, Nat.le_refl 0, .refl m⟩
  | succ fuel ih =>
    intro place full site start first body ops m stack s fits body_code code before here
    exact executesList ih body_code fits before code here rfl

/-- The site of a program that runs by itself. -/
theorem at_start (t : CompiledTemplate) (vars : Vars) (surroundings : ω) :
    At (Machine.start t.loaded vars surroundings) ⟨t.loaded, [], 0, [], []⟩ 0 []
      ⟨.ofVars vars, [], [], surroundings⟩ :=
  ⟨rfl, rfl, rfl, rfl, rfl, rfl, rfl, rfl, rfl, rfl, rfl⟩

/-- The end of a program that runs by itself. -/
theorem At.step_finish {setting : Setting ω} {m : Machine ω} {site : Site} {place : Place}
    {full rest : List SourceOp} {ip : Nat} {stack : List Value} {s : State ω}
    (here : At m site ip stack s) (alone : site.outer = []) (fits : Fits site place full)
    (code : CodeAt full ip (.finish :: rest)) :
    m.step setting.env = .inr ((counting m m.level).outcome m.level none) := by
  have outer : (counting m m.level).outer = [] :=
    List.map_eq_nil_iff.mp (here.outer.trans alone)
  have step : m.step setting.env = (counting m m.level).finish := here.step_eq fits code
  rw [step, Machine.finish, outer]
  rfl

/-- With as much fuel as the meaning of a template takes, and no bound on its
steps, the machine goes on as long and ends as the meaning does. -/
theorem run_unbounded (setting : Setting ω) (fuel : Nat) (t : CompiledTemplate) (vars : Vars)
    (surroundings : ω) :
    (run setting fuel t vars surroundings = none ∧
      Machine.run setting.env fuel (.start t.loaded vars surroundings) = none) ∨
    ∃ more o, run setting fuel t vars surroundings = some o.summary ∧
      Machine.run setting.env more (.start t.loaded vars surroundings) = some o := by
  obtain ⟨ops, body, fits⟩ := exists_fits t
  have whole := CodeAt.whole (ops ++ [Op.finish])
  have leads : Leads setting.env [] fuel (.start t.loaded vars surroundings)
      (fun _ s' m' => At m' ⟨t.loaded, [], 0, [], []⟩ (0 + ops.length) [] s')
      (interpret setting fuel ⟨t, 0, 0⟩ 0 t.template.body ⟨.ofVars vars, [], [], surroundings⟩) :=
    simulates_interpret setting fuel (fits 0 []) body whole.left rfl (at_start t vars surroundings)
  unfold run
  match interpret setting fuel ⟨t, 0, 0⟩ 0 t.template.body ⟨.ofVars vars, [], [], surroundings⟩,
    leads with
  | none, ⟨n, m, enough, reaches⟩ => exact .inl ⟨rfl, reaches.run_eq_none enough⟩
  | some (.ok _, s), ⟨n, m, reaches, there⟩ =>
    have last : m.step setting.env = _ := there.step_finish rfl (fits 0 []) (whole.right rfl)
    have ran := reaches.run_of_step last
    refine .inr ⟨n + 1, _, ?_, ran⟩
    rw [Option.map_some, Outcome.summary, Machine.written_of_run ran]
    change some (Summary.mk s.accepted (byteCount s.accepted) none s.surroundings) = _
    rw [← there.accepted, ← there.surroundings]
    rfl
  | some (.error e, s), ⟨n, m, o, reaches, last, fails⟩ =>
    have ran := reaches.run_of_step last
    refine .inr ⟨n + 1, o, ?_, ran⟩
    rw [Option.map_some, Outcome.summary, Machine.written_of_run ran, fails.error, fails.accepted,
      fails.surroundings]
    rfl

/-- The machine and the meaning of a template agree. -/
theorem machine_run_agrees (setting : Setting ω) (t : CompiledTemplate) (vars : Vars)
    (surroundings : ω) :
    (∀ fuel o, Machine.run setting.environment fuel (.start t.loaded vars surroundings) = some o →
      o.CutOff setting.environment ∨
        ∃ more, run setting more t vars surroundings = some o.summary) ∧
    ∀ fuel summary, run setting fuel t vars surroundings = some summary →
      ∃ more o, Machine.run setting.environment more (.start t.loaded vars surroundings) = some o ∧
        (o.CutOff setting.environment ∨ o.summary = summary) := by
  constructor
  · intro fuel o ended
    refine (Machine.run_bounded ended).imp_right fun free => ⟨fuel, ?_⟩
    rcases run_unbounded setting fuel t vars surroundings with ⟨-, going⟩ | ⟨more, o', means, ran⟩
    · rw [going] at free
      cases free
    · have same : some o = some o' :=
        (Machine.run_mono (Nat.le_max_left fuel more) free).symm.trans
          (Machine.run_mono (Nat.le_max_right fuel more) ran)
      obtain rfl := Option.some.inj same
      exact means
  · intro fuel summary means
    rcases run_unbounded setting fuel t vars surroundings with ⟨none, -⟩ | ⟨more, o, means', ran⟩
    · rw [none] at means
      cases means
    · obtain ⟨o', ended, same⟩ := Machine.exists_run_bounded ran
      refine ⟨more, o', ended, same.imp_right ?_⟩
      intro eq
      rw [eq]
      exact Option.some.inj (means'.symm.trans means)

/-- A source that gives only compiled programs is that of some library. -/
theorem exists_library (source : TemplateSource ω)
    (compiled : ∀ name surroundings loaded, (source name surroundings).1 = .ok loaded →
      ∃ t : CompiledTemplate, t.loaded = loaded) :
    ∃ library : TemplateLibrary ω, library.programs = source := by
  have found (name : String) (surroundings : ω) : ∃ r : Except Error CompiledTemplate,
      r.map CompiledTemplate.loaded = (source name surroundings).1 := by
    cases given : (source name surroundings).1 with
    | error e => exact ⟨.error e, rfl⟩
    | ok loaded =>
      obtain ⟨t, same⟩ := compiled name surroundings loaded given
      exact ⟨.ok t, congrArg Except.ok same⟩
  choose result same using found
  refine ⟨fun name surroundings => (result name surroundings, (source name surroundings).2), ?_⟩
  funext name surroundings
  exact Prod.ext (same name surroundings) rfl

end Meaning
end TemplateEngine
