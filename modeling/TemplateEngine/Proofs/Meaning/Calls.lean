import TemplateEngine.Proofs.Meaning.Leads

/-!
# Calls and inclusions

Machines do what calls and inclusions do, given that they do what the bodies of
macros and included templates do.
-/

namespace TemplateEngine

namespace Level

theorem popMany_eq {l : Level} {values stack : List Value} (h : l.stack = values.reverse ++ stack)
    (rest : List Value → Level → Effect) :
    l.popMany values.length rest = rest values { l with stack := stack } := by
  have taken : l.stack.take values.length = values.reverse := by
    rw [h, List.take_left' (List.length_reverse)]
  have left : l.stack.drop values.length = stack := by
    rw [h, List.drop_left' (List.length_reverse)]
  have enough : ¬ l.stack.length < values.length := by
    rw [h, List.length_append, List.length_reverse]
    omega
  rw [popMany, if_neg enough, taken, left, List.reverse_reverse]

end Level

namespace Meaning

variable {ω : Type} {setting : Setting ω} {run : BodyAction ω} {m : Machine ω} {site : Site}
  {place : Place} {full rest : List SourceOp} {ip ip' next fuel : Nat} {stack operands : List Value}
  {s : State ω} {op : SourceOp}

/-- Machines do what the action does for bodies, as far as its fuel goes. -/
def Simulates (setting : Setting ω) (fuel : Nat) (run : BodyAction ω) : Prop :=
  ∀ {place full site start first body ops m stack s}, Fits site place full →
    BodyCode place.current.options start body ops → CodeAt full start ops →
    macrosBefore full start = first → At m site start stack s →
    Leads setting.env site.outer fuel m
      (fun _ s' m' => At m' site (start + ops.length) stack s') (run place first body s)

/-- The site inside of a macro call that returns to some instruction. -/
def Site.inMacro (site : Site) (returnTo : Nat) : Site :=
  { site with
    calls := ⟨returnTo, site.iters.length + 1, []⟩ :: site.calls
    iters := none :: site.iters }

theorem Fits.inMacro (fits : Fits site place full) (returnTo : Nat) :
    Fits (site.inMacro returnTo) { place with depth := place.depth + 1 } full where
  loaded := fits.loaded
  program := fits.program
  macros := fits.macros
  depth := by
    have outside := fits.depth
    change site.calls.length + 1 + site.outerDepth = place.depth + 1
    omega
  includeDepth := fits.includeDepth

/-- Leaving a macro gives back what it has written. -/
theorem At.leads_leaveMacro {returnTo : Nat} (here : At m (site.inMacro returnTo) ip stack s)
    (fits : Fits (site.inMacro returnTo) place full)
    (code : CodeAt full ip (.macroReturn :: rest)) :
    Leads setting.env site.outer fuel m
      (fun value s' m' => At m' site returnTo (value :: stack) s')
      ((Action.dropTo (site.iters.length + 1) >>= fun _ => Action.endCapture) s) := by
  change Leads _ _ _ _ _ (some (.ok (Value.raw (String.join (s.captures.headD []).reverse)),
    { s with scope := s.scope.truncate (site.iters.length + 1), captures := s.captures.tail }))
  obtain ⟨c, calls, calling, blank, below⟩ := List.map_eq_cons_iff.mp here.calls
  have depth : c.scopeDepth = site.iters.length + 1 := congrArg Call.scopeDepth blank
  have captures : c.captured :: (calls.map Call.captured ++ Waiting.captures m.outer)
      = s.captures := by
    rw [← here.captures, Machine.captures, Level.captures, calling]
    rfl
  have executes : m.level.execute setting.options
      ((Op.macroReturn : SourceOp).resolved (macrosBefore full ip)) = .next { m.level with
        ip := c.returnTo
        scope := m.level.scope.truncate (site.iters.length + 1)
        stack := .raw (String.join c.captured.reverse) :: m.level.stack
        calls := calls } := by
    simp [Op.resolved, Level.execute, Level.leaveMacro, calling, depth]
  have iters : m.level.scope.iters = [none] ++ site.iters := here.iters
  refine Leads.mono (here.leads_next fits code executes (.pure ?_)) (Nat.le_succ fuel)
  exact {
    loaded := here.loaded
    calls := below
    outerDepth := here.outerDepth
    outer := here.outer
    iters := m.level.scope.iters_truncate iters
    ip := congrArg Call.returnTo blank
    stack := by rw [← here.stack, ← captures]; rfl
    scope := (m.level.scope.plain_truncate _).trans (by rw [here.scope])
    captures := congrArg List.tail captures
    accepted := here.accepted
    surroundings := here.surroundings }

/-- The result of looking up a macro by its number. -/
theorem Fits.macroAt (fits : Fits site place full) (n : Nat) :
    (place.current.template.routines[n]? = none ∧
      place.current.program.macroAt n = .error .callee) ∨
    ∃ r callee, place.current.template.routines[n]? = some r ∧
      place.current.program.macroAt n = .ok (n, callee) ∧
      Routine.Located place.current.options full r callee := by
  have found := fits.macros n
  unfold Program.macroAt
  cases routine : place.current.template.routines[n]? with
  | none =>
    rw [routine] at found
    cases known : place.current.program.macros[n]? with
    | none => exact .inl ⟨rfl, rfl⟩
    | some callee =>
      rw [known] at found
      cases found
  | some r =>
    rw [routine] at found
    cases known : place.current.program.macros[n]? with
    | none =>
      rw [known] at found
      cases found
    | some callee =>
      rw [known] at found
      cases found with
      | some located => exact .inr ⟨r, callee, rfl, rfl, located⟩

/-- The depth of calls and inclusions at a level. -/
theorem At.depth_eq (here : At m site ip stack s) (fits : Fits site place full) :
    m.level.depth = place.depth := by
  rw [← fits.depth, ← here.calls, ← here.outerDepth, List.length_map]
  rfl

theorem inMacro_of_error {closure : Nat} {fault : ScopeFault}
    (ended : s.scope.pushWithParent closure = .error fault) (args : List (String × Value))
    (body : Action ω Unit) :
    Action.inMacro closure args body s = some (.error (.type 0 .scopeEnded), s) := by
  rw [Action.inMacro, Action.inspect_bind, Action.inspect_bind, ended]
  rfl

theorem inMacro_of_ok {closure : Nat} {scope : Scope}
    (pushed : s.scope.pushWithParent closure = .ok scope) (args : List (String × Value))
    (body : Action ω Unit) :
    Action.inMacro closure args body s =
      (body >>= fun _ => Action.dropTo s.scope.depth >>= fun _ => Action.endCapture)
        { s with
          scope := args.foldl (fun s arg => s.bind arg.1 arg.2) scope
          captures := [] :: s.captures } := by
  rw [Action.inMacro, Action.inspect_bind, Action.inspect_bind, pushed]
  rfl

/-- Entering the body of a macro and leaving it. -/
theorem At.leads_enterMacro (simulates : Simulates setting fuel run)
    (here : At m site ip operands s) (fits : Fits site place full)
    (code : CodeAt full ip (op :: rest)) (e : next = ip + 1) {r : Routine} {callee : MacroDef}
    (located : Routine.Located place.current.options full r callee) {closure : Nat}
    {args : List (String × Value)}
    (executes : m.level.execute setting.options (op.resolved (macrosBefore full ip))
      = { m.level with stack := stack }.enterMacro callee.entry closure args) :
    Leads setting.env site.outer (fuel + 1) m
      (fun value s' m' => At m' site next (value :: stack) s')
      (Action.inMacro closure args
        (run { place with depth := place.depth + 1 } r.first r.body) s) := by
  have pushing := Scope.pushWithParent_plain m.level.scope closure
  rw [here.scope] at pushing
  cases pushed : m.level.scope.pushWithParent closure with
  | error fault =>
    rw [pushed] at pushing
    rw [inMacro_of_error pushing]
    have ended : Level.enterMacro { m.level with stack := stack } callee.entry closure args
        = .fail (.type m.level.ip .scopeEnded) { m.level with stack := stack } := by
      simp only [Level.enterMacro, pushed]
      rfl
    exact here.leads_fail fits code (executes.trans ended) rfl
  | ok scope =>
    rw [pushed] at pushing
    rw [inMacro_of_ok pushing]
    obtain ⟨inner, body, body_at⟩ := located.body
    have entered : Level.enterMacro { m.level with stack := stack } callee.entry closure args
        = .next { m.level with
            stack := stack
            ip := callee.entry
            scope := args.foldl (fun s arg => s.bind arg.1 arg.2) scope
            calls := ⟨m.level.ip + 1, m.level.scope.depth, []⟩ :: m.level.calls } := by
      simp only [Level.enterMacro, pushed]
    have depth : s.scope.depth = site.iters.length + 1 := by
      rw [← here.scope, Scope.depth_plain, ← here.iters, Scope.length_iters]
      rfl
    refine here.leads_next fits code (executes.trans entered) ?_
    have inside : At (counting m { m.level with
        stack := stack
        ip := callee.entry
        scope := args.foldl (fun s arg => s.bind arg.1 arg.2) scope
        calls := ⟨m.level.ip + 1, m.level.scope.depth, []⟩ :: m.level.calls })
        (site.inMacro next) callee.entry stack
        { s with
          scope := args.foldl (fun s arg => s.bind arg.1 arg.2) scope.plain
          captures := [] :: s.captures } := {
      here with
      calls := by
        have scopeDepth : m.level.scope.depth = site.iters.length + 1 := by
          rw [← depth, ← here.scope, Scope.depth_plain]
        rw [Site.inMacro, ← here.calls, e, ← here.ip, ← scopeDepth]
        rfl
      iters := (scope.iters_bindAll args).trans
        ((m.level.scope.iters_pushWithParent pushed).trans (congrArg _ here.iters))
      ip := rfl
      stack := rfl
      scope := scope.plain_bindAll args
      captures := congrArg ([] :: ·) here.captures }
    rw [depth]
    have within := simulates (fits.inMacro next) body body_at.left located.first inside
    refine Leads.bind within ?_
    intro _ s' m' there
    exact there.leads_leaveMacro (fits.inMacro next) (body_at.right rfl)

theorem At.leads_call (simulates : Simulates setting fuel run) {args : List Value} {callee : Value}
    (here : At m site ip (args.reverse ++ callee :: stack) s) (fits : Fits site place full)
    (code : CodeAt full ip (.macroCall args.length :: rest)) (e : next = ip + 1) :
    Leads setting.env site.outer (fuel + 1) m
      (fun value s' m' => At m' site next (value :: stack) s')
      (call setting run place callee args s) := by
  have executes : m.level.execute setting.options
        ((Op.macroCall args.length : SourceOp).resolved (macrosBefore full ip))
      = { m.level with stack := stack }.call setting.options callee args := by
    simp only [Op.resolved, Level.execute]
    rw [Level.popMany_eq here.stack]
    rfl
  cases callee with
  | macroRef ref =>
    have loaded : m.level.loaded = place.current.loaded := here.loaded.trans fits.loaded
    obtain ⟨l, popped⟩ : ∃ l : Level, l = { m.level with stack := stack } := ⟨_, rfl⟩
    have id : l.loaded.id = place.current.id := by rw [popped]; exact congrArg Loaded.id loaded
    have program : l.loaded.program = place.current.program := by
      rw [popped]
      exact congrArg Loaded.program loaded
    have depth : l.depth = place.depth := by rw [popped]; exact here.depth_eq fits
    rw [← popped, Level.call, id, program] at executes
    by_cases own : ref.program = place.current.id
    · rw [if_neg (not_not_intro own)] at executes
      rcases fits.macroAt ref.index with ⟨unknown, none⟩ | ⟨r, target, known, some, located⟩
      · have means : call setting run place (.macroRef ref) args
            = Action.fail (.malformed 0 (.operand .callee)) := by
          simp [call, own, unknown]
        rw [none] at executes
        rw [means]
        exact here.leads_fail fits code executes rfl
      · rw [some] at executes
        dsimp only at executes
        rw [located.params, located.name, depth] at executes
        by_cases arity : args.length = r.params.length
        · rw [if_neg (not_not_intro arity)] at executes
          by_cases room : place.depth + 1 ≤ setting.options.maxDepth
          · have means : call setting run place (.macroRef ref) args
                = Action.inMacro ref.closure (r.params.zip args)
                  (run { place with depth := place.depth + 1 } r.first r.body) := by
              simp [call, own, known, arity, Nat.not_lt.mpr room]
            rw [if_neg (Nat.not_lt.mpr room), popped] at executes
            rw [means]
            exact here.leads_enterMacro simulates fits code e located executes
          · have means : call setting run place (.macroRef ref) args
                = Action.fail (.limit (.callDepth (place.depth + 1) setting.options.maxDepth)) := by
              simp [call, own, known, arity, Nat.lt_of_not_le room]
            rw [if_pos (Nat.lt_of_not_le room)] at executes
            rw [means]
            exact here.leads_fail fits code executes rfl
        · have means : call setting run place (.macroRef ref) args
              = Action.fail (.arity 0 r.name r.params.length args.length) := by
            simp [call, own, known, arity]
          rw [if_pos arity] at executes
          rw [means]
          exact here.leads_fail fits code executes rfl
    · have means : call setting run place (.macroRef ref) args
          = Action.fail (.type 0 (.foreignMacro ref.name)) := by
        simp [call, own]
      rw [if_pos own] at executes
      rw [means]
      exact here.leads_fail fits code executes rfl
  | undef => exact here.leads_fail fits code executes rfl
  | bool b => exact here.leads_fail fits code executes rfl
  | int n => exact here.leads_fail fits code executes rfl
  | float x => exact here.leads_fail fits code executes rfl
  | str t => exact here.leads_fail fits code executes rfl
  | raw t => exact here.leads_fail fits code executes rfl
  | list items => exact here.leads_fail fits code executes rfl
  | map entries => exact here.leads_fail fits code executes rfl

/-- The code of a template, and the site that runs it inside of some levels. -/
theorem exists_fits (t : CompiledTemplate) :
    ∃ ops, BodyCode t.options 0 t.template.body ops ∧ ∀ outerDepth outer,
      Fits ⟨t.loaded, [], outerDepth, outer, []⟩ ⟨t, outerDepth, outer.length⟩
        (ops ++ [.finish]) := by
  obtain ⟨ops, code, program⟩ := Template.code_of_compile t.compiles
  refine ⟨ops, code, fun outerDepth outer => ⟨rfl, program, ?_, Nat.zero_add _, rfl⟩⟩
  intro n
  rw [program]
  exact Template.located_macros code n

/-- Levels around give their names to an error of an included template. -/
theorem Leads.inTemplate {outer : List Waiting} {w : Waiting} {scope : Scope}
    {post post' : Unit → State ω → Machine ω → Prop} {r : Option (Except RuntimeError Unit × State ω)}
    (h : Leads setting.env (w :: outer) fuel m post r)
    (finish : ∀ s' m', post () s' m' →
      ∃ m'', m'.step setting.env = .inl m'' ∧ post' () { s' with scope := scope } m'') :
    Leads setting.env outer fuel m post' (r.map fun (result, s') =>
      (result.mapError (·.around w.name), { s' with scope := scope })) := by
  match r, h with
  | none, h => exact h
  | some (.ok (), s'), ⟨n, m', reaches, after⟩ =>
    obtain ⟨m'', last, there⟩ := finish s' m' after
    exact ⟨n + 1, m'', reaches.trans (.single last), there⟩
  | some (.error e, s'), ⟨n, m', o, reaches, last, fails⟩ =>
    exact ⟨n, m', o, reaches, last, ⟨fails.error, fails.accepted, fails.surroundings⟩⟩

/-- The site of a template that is included from a machine. -/
def Site.ofIncluded (site : Site) (t : CompiledTemplate) (name : String) (m : Machine ω) : Site where
  loaded := t.loaded
  calls := []
  outerDepth := m.level.depth + 1
  outer := ⟨name, m.level.blank⟩ :: site.outer
  iters := []

/-- The end of an included template is the end of its inclusion. -/
theorem At.exists_leave {name : String} {t : CompiledTemplate} (here : At m site ip stack s)
    (e : next = ip + 1) {m' : Machine ω} {s' : State ω}
    (there : At m' (site.ofIncluded t name m) ip' [] s')
    (fits : Fits (site.ofIncluded t name m) place full)
    (code : CodeAt full ip' (.finish :: rest)) :
    ∃ m'', m'.step setting.env = .inl m'' ∧ At m'' site next stack { s' with scope := s.scope } := by
  obtain ⟨w, outer, waits, blank, below⟩ := List.map_eq_cons_iff.mp there.outer
  have returns : w.level.blank = m.level.blank := congrArg Waiting.level blank
  have alone : m'.level.calls = [] := List.map_eq_nil_iff.mp there.calls
  have step : m'.step setting.env = (counting m' m'.level).finish := there.step_eq fits code
  have leaves : (counting m' m'.level).finish
      = .inl { counting m' w.level.advance with outer := outer } := by
    unfold Machine.finish
    rw [show (counting m' m'.level).outer = w :: outer from waits]
    rfl
  have again : At { m with level := m.level.advance } site next stack s :=
    { here with ip := by rw [e, ← here.ip]; rfl }
  refine ⟨_, step.trans leaves, again.transfer ?_ ?_ rfl ?_ there.accepted there.surroundings⟩
  · exact congrArg Level.advance returns
  · exact below.trans here.outer.symm
  · have inside : m'.captures = w.level.captures ++ Waiting.captures outer := by
      rw [Machine.captures, Level.captures, alone, waits]
      simp [Waiting.captures]
    exact inside.symm.trans there.captures

/-- The machine at the start of an included template. -/
def including (m : Machine ω) (t : CompiledTemplate) (name : String) (vars : Vars)
    (surroundings : ω) : Machine ω :=
  { m with
    level := .start t.loaded vars (m.level.depth + 1)
    outer := ⟨name, m.level⟩ :: m.outer
    surroundings := surroundings }

theorem At.atIncluded (here : At m site ip stack s) (t : CompiledTemplate) (name : String)
    (vars : Vars) (after : ω) :
    At (including m t name vars after) (site.ofIncluded t name m) 0 []
      ⟨.ofVars vars, s.captures, s.accepted, after⟩ where
  loaded := rfl
  calls := rfl
  outerDepth := rfl
  outer := congrArg (_ :: ·) here.outer
  iters := rfl
  ip := rfl
  stack := rfl
  scope := rfl
  captures := here.captures
  accepted := here.accepted
  surroundings := rfl

/-- An included template runs and gives back the scope of the inclusion. -/
theorem At.leads_included (simulates : Simulates setting fuel run) (here : At m site ip stack s)
    (fits : Fits site place full) (e : next = ip + 1) (name : String) (vars : Vars)
    (t : CompiledTemplate) (after : ω) :
    Leads setting.env site.outer fuel (including m t name vars after)
      (fun _ s' m' => At m' site next stack s')
      (Action.inTemplate name vars
        (run ⟨t, place.depth + 1, place.includeDepth + 1⟩ 0 t.template.body)
        { s with surroundings := after }) := by
  obtain ⟨ops, body, fits_here⟩ := exists_fits t
  have inner_fits := fits_here (m.level.depth + 1) (⟨name, m.level.blank⟩ :: site.outer)
  rw [List.length_cons, fits.includeDepth, here.depth_eq fits, ← here.depth_eq fits] at inner_fits
  have within := simulates inner_fits body (CodeAt.whole _).left rfl (here.atIncluded t name vars after)
  rw [← here.depth_eq fits]
  refine Leads.inTemplate within ?_
  intro s' m' there
  exact here.exists_leave e there inner_fits ((CodeAt.whole _).right rfl)

/-- What an inclusion does once its depth is within the bounds. -/
theorem inclusion_eq {library : TemplateLibrary ω} {name : String} {args : Vars}
    {found : Except Error CompiledTemplate} {after : ω} (library_eq : setting.library = some library)
    (room : place.depth + 1 ≤ setting.options.maxDepth)
    (inner_room : place.includeDepth + 1 ≤ setting.options.maxIncludeDepth)
    (found_eq : library name s.surroundings = (found, after)) :
    inclusion setting run place name args s = (match found with
      | .error e => Action.fail (.included name e)
      | .ok t => Action.inTemplate name (Bindings.insertAll s.scope.visible args)
          (run ⟨t, place.depth + 1, place.includeDepth + 1⟩ 0 t.template.body))
        { s with surroundings := after } := by
  unfold inclusion
  rw [library_eq]
  dsimp only
  rw [if_neg (Nat.not_lt.mpr room), if_neg (Nat.not_lt.mpr inner_room)]
  change (match (library name s.surroundings).1 with
    | .error e => (Action.fail (.included name e) : Action ω Unit)
    | .ok t => Action.inTemplate name (Bindings.insertAll s.scope.visible args)
        (run ⟨t, place.depth + 1, place.includeDepth + 1⟩ 0 t.template.body))
      { s with surroundings := (library name s.surroundings).2 } = _
  rw [found_eq]

theorem At.leads_inclusion (simulates : Simulates setting fuel run) {args : Vars} {name : Value}
    (here : At m site ip (.map args :: name :: stack) s) (fits : Fits site place full)
    (code : CodeAt full ip (.inclusion :: rest)) (e : next = ip + 1) :
    Leads setting.env site.outer (fuel + 1) m (fun _ s' m' => At m' site next stack s')
      (inclusion setting run place name.display args s) := by
  have executes : m.level.execute setting.options
        ((Op.inclusion : SourceOp).resolved (macrosBefore full ip))
      = .enter name.display (.map args) { m.level with stack := stack } := by
    simp [Op.resolved, Level.execute, Level.pop2, Level.pop1, here.stack]
  obtain ⟨m₁, popped⟩ : ∃ m₁, m₁ = counting m { m.level with stack := stack } := ⟨_, rfl⟩
  have step : m.step setting.env = m₁.enter setting.env name.display (.map args) := by
    rw [here.step_eq fits code, executes, popped]
    rfl
  have before : At m₁ site ip stack s := by
    rw [popped]
    exact { here with stack := rfl }
  have fails {e e' : RuntimeError} (same : e.unplaced = e'.unplaced) :
      Fails (m₁.abort e) site.outer e' s :=
    fails_abort before.outer same before.accepted before.surroundings
  have depth : m₁.level.depth = place.depth := before.depth_eq fits
  have includeDepth : m₁.outer.length = place.includeDepth := by
    rw [← fits.includeDepth, ← before.outer, List.length_map]
  cases library_eq : setting.library with
  | none =>
    have source : setting.env.source = none := by
      simp [Setting.env, Environment.unbounded, Setting.environment, library_eq]
    have means : inclusion setting run place name.display args
        = Action.fail (.noLoader name.display) := by
      simp [inclusion, library_eq]
    rw [Machine.enter, source] at step
    rw [means]
    exact ⟨0, m, _, .refl m, step, fails rfl⟩
  | some library =>
    have source : setting.env.source = some library.programs := by
      simp [Setting.env, Environment.unbounded, Setting.environment, library_eq]
    rw [Machine.enter, source] at step
    dsimp only at step
    have bound : setting.env.options.maxDepth = setting.options.maxDepth := rfl
    have inner_bound : setting.env.options.maxIncludeDepth = setting.options.maxIncludeDepth := rfl
    rw [depth, includeDepth, bound, inner_bound] at step
    by_cases room : place.depth + 1 ≤ setting.options.maxDepth
    · rw [if_neg (Nat.not_lt.mpr room)] at step
      by_cases inner_room : place.includeDepth + 1 ≤ setting.options.maxIncludeDepth
      · rw [if_neg (Nat.not_lt.mpr inner_room)] at step
        have visible : m₁.level.scope.visible = s.scope.visible := by
          rw [← before.scope, Scope.visible_plain]
        have vars : Machine.includedVars m₁.level (.map args)
            = .ok (Bindings.insertAll s.scope.visible args) := by
          rw [Machine.includedVars, visible]
        have found : library.programs name.display m₁.surroundings
            = ((library name.display s.surroundings).1.map CompiledTemplate.loaded,
              (library name.display s.surroundings).2) := by
          rw [before.surroundings]
          rfl
        rw [vars] at step
        dsimp only at step
        rw [found] at step
        cases found_eq : library name.display s.surroundings with
        | mk result after =>
          rw [inclusion_eq library_eq room inner_room found_eq]
          rw [found_eq] at step
          cases result with
          | error e =>
            exact ⟨0, m, _, .refl m, step, fails_abort before.outer rfl before.accepted rfl⟩
          | ok t =>
            rw [← depth] at step
            exact Leads.step step (before.leads_included simulates fits e name.display _ t after)
      · have means : inclusion setting run place name.display args = Action.fail
            (.limit (.includeDepth (place.includeDepth + 1) setting.options.maxIncludeDepth)) := by
          simp [inclusion, library_eq, Nat.not_lt.mpr room, Nat.lt_of_not_le inner_room]
        rw [if_pos (Nat.lt_of_not_le inner_room)] at step
        rw [means]
        exact ⟨0, m, _, .refl m, step, fails rfl⟩
    · have means : inclusion setting run place name.display args
          = Action.fail (.limit (.callDepth (place.depth + 1) setting.options.maxDepth)) := by
        simp [inclusion, library_eq, Nat.lt_of_not_le room]
      rw [if_pos (Nat.lt_of_not_le room)] at step
      rw [means]
      exact ⟨0, m, _, .refl m, step, fails rfl⟩

end Meaning
end TemplateEngine
