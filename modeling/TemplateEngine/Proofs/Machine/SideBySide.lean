import TemplateEngine.Proofs.Machine.Balanced
import TemplateEngine.Proofs.Machine.Interior

/-!
# Two machines in the same call

Two machines make the same call at levels that agree on the frames within reach. What the
call has put on top of its level is the same in both, and so are the templates that it
includes: they are given the same variables. All that is written meanwhile is captured by
the call. So the machines take the same steps, until both fail for the same reason or the
call returns in both.
-/

namespace TemplateEngine

variable {ω : Type} {K : Nat → Prop} {b b' : Level} {around around' : List Waiting}

namespace Machine

/-- The machines are in a call that has put the same on top of two levels, or in a template
that it includes. -/
inductive Twin (K : Nat → Prop) (b b' : Level) (around around' : List Waiting) :
    Machine ω → Machine ω → Prop
  | running {p : Interior} {steps : Nat} {accepted accepted' : List String} {s : ω} :
      p.Closed b.loaded.id K b.scope.depth → p.calls ≠ [] →
      Twin K b b' around around' ⟨p.on b, around, steps, accepted, s⟩
        ⟨p.on b', around', steps, accepted', s⟩
  | included {p : Interior} {l : Level} (inner : List Waiting) {name : String} {steps : Nat}
      {accepted accepted' : List String} {s : ω} :
      p.Closed b.loaded.id K b.scope.depth → p.calls ≠ [] →
      Twin K b b' around around' ⟨l, inner ++ ⟨name, p.on b⟩ :: around, steps, accepted, s⟩
        ⟨l, inner ++ ⟨name, p.on b'⟩ :: around', steps, accepted', s⟩

/-- What a step of both machines leads to. -/
inductive Abreast (K : Nat → Prop) (b b' : Level) (around around' : List Waiting) :
    Progress ω → Progress ω → Prop
  | next {x x' : Machine ω} : Twin K b b' around around' x x' →
      Abreast K b b' around around' (.inl x) (.inl x')
  | left {p : Interior} {steps : Nat} {accepted accepted' : List String} {s : ω} : p.calls = [] →
      Abreast K b b' around around' (.inl ⟨p.on b, around, steps, accepted, s⟩)
        (.inl ⟨p.on b', around', steps, accepted', s⟩)
  | failed {o o' : Outcome ω} (e : RuntimeError) :
      o.error = some (around.foldl (fun e w => e.around w.name) e) →
      o'.error = some (around'.foldl (fun e w => e.around w.name) e) →
      Abreast K b b' around around' (.inr o) (.inr o')

end Machine

variable {env env' : Environment ω} {p : Interior} {steps : Nat} {accepted accepted' : List String}
  {s : ω} {inner : List Waiting} {name : String} {l l' : Level}

namespace Machine

theorem abort_running (e : RuntimeError) :
    Abreast K b b' around around' (.inr (abort ⟨l, around, steps, accepted, s⟩ e))
      (.inr (abort ⟨l', around', steps, accepted', s⟩ e)) :=
  .failed e rfl rfl

theorem abort_included {k k' : Level} (e : RuntimeError) :
    Abreast K b b' around around'
      (.inr (abort ⟨l, inner ++ ⟨name, k⟩ :: around, steps, accepted, s⟩ e))
      (.inr (abort ⟨l', inner ++ ⟨name, k'⟩ :: around', steps, accepted', s⟩ e)) := by
  refine .failed ((inner.foldl (fun e w => e.around w.name) e).around name) ?_ ?_ <;>
    simp [abort, outcome]

/-- A text that passes the templates included by the call is taken by the call. -/
theorem exists_waiting_capture (text : String) (name : String) (inner : List Waiting)
    (closed : p.Closed b.loaded.id K b.scope.depth) (calling : p.calls ≠ []) :
    ∃ (inner' : List Waiting) (q : Interior), q.Closed b.loaded.id K b.scope.depth ∧ q.calls ≠ [] ∧
      ∀ (b : Level) (around : List Waiting),
        Waiting.capture? text (inner ++ ⟨name, p.on b⟩ :: around)
          = some (inner' ++ ⟨name, q.on b⟩ :: around) := by
  induction inner with
  | nil =>
    refine ⟨[], p.capture text, closed.capture text p.ip, Interior.capture_ne_nil calling text, ?_⟩
    intro b around
    rw [List.nil_append, Waiting.capture?, Interior.capture?_on calling]
    rfl
  | cons w inner ih =>
    obtain ⟨inner', q, closed', calling', takes⟩ := ih
    cases taken : w.level.capture? text with
    | some level =>
      refine ⟨{ w with level := level } :: inner, p, closed, calling, fun b around => ?_⟩
      rw [List.cons_append, Waiting.capture?, taken]
      rfl
    | none =>
      refine ⟨{ w with level := w.level.pass text } :: inner', q, closed', calling', ?_⟩
      intro b around
      rw [List.cons_append, Waiting.capture?, taken]
      dsimp only
      rw [takes]
      rfl

section

variable (options : env'.options = env.options) (source : env'.source = env.source)
include options source

/-- Both machines start the same template if they give it the same variables. -/
theorem enter_abreast {T : Progress ω → Progress ω → Prop} {outer outer' : List Waiting}
    {args : Value} (depth : l'.depth = l.depth) (outside : outer'.length = outer.length)
    (ip : l'.ip = l.ip) (vars : includedVars l' args = includedVars l args)
    (failed : ∀ e s, T (.inr (abort ⟨l, outer, steps, accepted, s⟩ e))
      (.inr (abort ⟨l', outer', steps, accepted', s⟩ e)))
    (entered : ∀ inner s, T (.inl ⟨inner, ⟨name, l⟩ :: outer, steps, accepted, s⟩)
      (.inl ⟨inner, ⟨name, l'⟩ :: outer', steps, accepted', s⟩)) :
    T (enter env ⟨l, outer, steps, accepted, s⟩ name args)
      (enter env' ⟨l', outer', steps, accepted', s⟩ name args) := by
  unfold enter
  rw [source, options]
  dsimp only
  rw [depth, outside, ip, vars]
  split
  · exact failed _ s
  · split
    · exact failed _ s
    · split
      · exact failed _ s
      · split
        · exact failed _ s
        · split
          · exact failed _ _
          · exact entered _ _

variable (depth : around'.length = around.length)
include depth

theorem perform_running (agree : b.AgreeIn K b') {effect effect' : Effect}
    (twin : effect.Twin K b b' effect') :
    Abreast K b b' around around' (perform env ⟨l, around, steps, accepted, s⟩ effect)
      (perform env' ⟨l', around', steps, accepted', s⟩ effect') := by
  cases twin with
  | @next p closed =>
    by_cases calling : p.calls = []
    · exact .left calling
    · exact .next (.running closed calling)
  | @write p text closed calling =>
    simp only [perform, write, Interior.capture?_on calling]
    exact .next (.running (closed.capture text (p.ip + 1)) (Interior.capture_ne_nil calling text))
  | @enter p name args closed frames calling =>
    have visible : (p.on b').scope.visible = (p.on b).scope.visible :=
      agree.scope.visible_topped frames closed.frames
    have vars : includedVars (p.on b') args = includedVars (p.on b) args := by
      unfold includedVars
      rw [visible]
    apply enter_abreast options source (agree.depth_on p) depth rfl vars
    · exact fun e s => abort_running e
    · intro inner s
      exact .next (.included [] closed calling)
  | fail e l l' => exact abort_running e

theorem perform_included (closed : p.Closed b.loaded.id K b.scope.depth) (calling : p.calls ≠ [])
    (effect : Effect) :
    Abreast K b b' around around'
      (perform env ⟨l, inner ++ ⟨name, p.on b⟩ :: around, steps, accepted, s⟩ effect)
      (perform env' ⟨l, inner ++ ⟨name, p.on b'⟩ :: around', steps, accepted', s⟩ effect) := by
  cases effect with
  | next l => exact .next (.included _ closed calling)
  | write text l =>
    rw [perform, perform, write, write]
    dsimp only
    cases taken : l.capture? text with
    | some level => exact .next (.included _ closed calling)
    | none =>
      obtain ⟨inner', q, closed', calling', takes⟩ :=
        exists_waiting_capture text name inner closed calling
      dsimp only
      rw [takes b around, takes b' around']
      exact .next (.included inner' closed' calling')
  | enter asked args l =>
    apply enter_abreast options source rfl _ rfl rfl
    · exact fun e s => abort_included e
    · intro started s
      exact .next (.included (⟨asked, l⟩ :: inner) closed calling)
    · rw [List.length_append, List.length_append, List.length_cons, List.length_cons, depth]
  | finish l =>
    cases inner with
    | nil => exact .next (.running (p := ⟨p.ip + 1, p.frames, p.stack, p.calls⟩)
        (closed.withStack closed.stack (p.ip + 1)) calling)
    | cons w inner => exact .next (.included _ closed calling)
  | fail e l => exact abort_included e

/-- Where the call finds what it needs on top of its level, both machines do the same. -/
theorem Twin.step (agree : b.AgreeIn K b') {x x' : Machine ω}
    (twin : Twin K b b' around around' x x')
    (fits : ∀ p op, x.level = Interior.on p b → x.outer = around → x.level.fetch = .ok op →
      p.frames ≠ [] ∧ op.operands ≤ p.stack.length ∧ op ≠ .finish) :
    Abreast K b b' around around' (x.step env) (x'.step env') := by
  unfold Machine.step
  cases twin with
  | @running p steps accepted accepted' s closed calling =>
    have fetch : (p.on b').fetch = (p.on b).fetch := by
      simp only [Level.fetch, Interior.on, agree.loaded]
    dsimp only
    rw [options, fetch]
    split
    · exact abort_running _
    · cases fetched : (p.on b).fetch with
      | error defect => exact abort_running _
      | ok op =>
        obtain ⟨frames, enough, runs⟩ := fits p op rfl rfl fetched
        exact perform_running options source depth agree
          (Interior.execute_twin agree closed frames enough runs calling)
  | @included p l inner name steps accepted accepted' s closed calling =>
    dsimp only
    rw [options]
    split
    · exact abort_included _
    · cases l.fetch with
      | error defect => exact abort_included _
      | ok op => exact perform_included options source depth closed calling _

end

theorem Twin.calling {x x' : Machine ω} (twin : Twin K b b' around around' x x') :
    x.Calling around.length b.calls.length ∧ x'.Calling around'.length b'.calls.length := by
  have more {p : Interior} (calling : p.calls ≠ []) (b : Level) :
      b.calls.length < (p.on b).calls.length := by
    simp [Interior.on, List.length_pos_iff.mpr calling]
  cases twin with
  | running _ calling => exact ⟨.running rfl (more calling b), .running rfl (more calling b')⟩
  | included inner _ calling =>
    exact ⟨.waiting rfl rfl (more calling b), .waiting rfl rfl (more calling b')⟩

/-- Where one machine goes on, so does the other. -/
theorem Abreast.exists_next {y : Machine ω} {progress : Progress ω}
    (h : Abreast K b b' around around' (.inl y) progress) :
    around.length ≤ y.outer.length ∧ ∃ y', progress = .inl y' := by
  cases h with
  | next twin => exact ⟨twin.calling.1.depth_le, _, rfl⟩
  | left => exact ⟨Nat.le_refl _, _, rfl⟩

/-- A step that stays in the call does so in both machines. -/
theorem Abreast.exists_twin {y : Machine ω} {progress : Progress ω}
    (h : Abreast K b b' around around' (.inl y) progress)
    (inside : y.Calling around.length b.calls.length) :
    ∃ y', progress = .inl y' ∧ Twin K b b' around around' y y' := by
  cases h with
  | next twin => exact ⟨_, rfl, twin⟩
  | left none =>
    have more := inside.of_depth rfl
    simp only [Interior.on, none, List.nil_append] at more
    exact absurd more (Nat.lt_irrefl _)

/-- Where one machine fails, so does the other, for the same reason. -/
theorem Abreast.exists_error {o : Outcome ω} {progress : Progress ω}
    (h : Abreast K b b' around around' (.inr o) progress) :
    ∃ (o' : Outcome ω) (e : RuntimeError), progress = .inr o' ∧
      o.error = some (around.foldl (fun e w => e.around w.name) e) ∧
      o'.error = some (around'.foldl (fun e w => e.around w.name) e) := by
  cases h with
  | failed e error error' => exact ⟨_, e, rfl, error, error'⟩

end Machine
end TemplateEngine
