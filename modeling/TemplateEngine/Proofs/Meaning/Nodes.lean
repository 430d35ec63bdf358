import TemplateEngine.Proofs.Meaning.Expressions

/-!
# Compiled nodes

By induction on the shape of code: a machine at the start of the code of a node
does what running the node does and leaves its stack as it was. The macros of a
node are numbered as in the program.
-/

namespace TemplateEngine

namespace Level

/-- The keys and values that make a map, lowest first. -/
def ofPairs (entries : List (String × Value)) : List Value :=
  entries.flatMap fun entry => [.str entry.1, entry.2]

@[simp] theorem ofPairs_nil : ofPairs [] = [] := rfl

@[simp] theorem ofPairs_cons (entry : String × Value) (rest : List (String × Value)) :
    ofPairs (entry :: rest) = .str entry.1 :: entry.2 :: ofPairs rest := rfl

theorem length_ofPairs (entries : List (String × Value)) :
    (ofPairs entries).length = 2 * entries.length := by
  induction entries with
  | nil => rfl
  | cons entry rest ih =>
    rw [ofPairs_cons, List.length_cons, List.length_cons, List.length_cons, ih]
    omega

theorem pairs_ofPairs (entries : List (String × Value)) : pairs (ofPairs entries) = entries := by
  induction entries with
  | nil => rfl
  | cons entry rest ih => rw [ofPairs_cons, pairs, ih]; rfl

end Level

namespace Meaning

variable {ω : Type} {setting : Setting ω} {run : BodyAction ω} {site : Site} {place : Place}
  {full : List SourceOp} {fuel rounds : Nat}

/-- Code of the arguments of an inclusion leaves their keys and values. -/
theorem evaluatesArgs (simulates : Simulates setting fuel run) (fits : Fits site place full)
    {start : Nat} {args : List (String × Expr)} {ops : List SourceOp}
    (h : ArgsCode start args ops) {m : Machine ω} {stack : List Value} {s : State ω} {next : Nat}
    (code : CodeAt full start ops) (here : At m site start stack s)
    (e : next = start + ops.length) :
    Leads setting.env site.outer (fuel + 1) m
      (fun entries s' m' => entries.length = args.length ∧
        At m' site next ((Level.ofPairs entries).reverse ++ stack) s')
      (evalArgs (interpreter setting run rounds place) args s) := by
  induction h generalizing m stack s next with
  | nil => exact .pure ⟨rfl, { here with ip := here.ip.trans e.symm }⟩
  | @cons start key value rest first others first_code _ ih =>
    have pushed : Leads setting.env site.outer (fuel + 1) m _ _ :=
      here.leads_yield [] fits code rfl (by rw [← here.stack]; rfl)
    apply pushed.andThen
    intro m₁ before
    have code' := code.tail rfl
    refine Leads.bind (evaluates simulates fits first_code code'.left before rfl) ?_
    intro value s' m' there
    refine Leads.bind (ih (code'.right rfl) there rfl) ?_
    rintro entries s'' m'' ⟨size, there'⟩
    refine .pure ⟨congrArg (· + 1) size, ?_⟩
    rw [Level.ofPairs_cons, List.reverse_cons, List.reverse_cons, List.append_assoc, List.append_assoc]
    refine { there' with ip := there'.ip.trans ?_ }
    rw [e, List.length_cons, List.length_append]
    omega

theorem At.leads_makeMap {m : Machine ω} {ip next : Nat} {stack : List Value} {s : State ω}
    {entries : List (String × Value)} {rest : List SourceOp}
    (here : At m site ip ((Level.ofPairs entries).reverse ++ stack) s) (fits : Fits site place full)
    (code : CodeAt full ip (.makeMap entries.length :: rest)) (e : next = ip + 1) :
    Leads setting.env site.outer fuel m (fun value s' m' => At m' site next (value :: stack) s')
      (some (.ok (.map (Bindings.ofList entries)), s)) := by
  refine here.leads_yield _ fits code e ?_
  rw [Op.resolved, Level.execute, ← Level.length_ofPairs, Level.popMany_eq here.stack,
    Level.pairs_ofPairs]

section

variable (setting site full fuel)

/-- The machine does what an action does and leaves the stack as it was. -/
abbrev Executes (start : Nat) (action : Action ω Unit) (ops : List SourceOp) : Prop :=
  ∀ {m stack s next}, CodeAt full start ops → At m site start stack s → next = start + ops.length →
    Leads setting.env site.outer fuel m (fun _ s' m' => At m' site next stack s') (action s)

end

variable {m : Machine ω} {stack : List Value} {s : State ω} {start next : Nat} {test : Expr}
  {cond inner others : List SourceOp}

/-- A test and the jump that a false value takes. -/
theorem leads_test {post : Unit → State ω → Machine ω → Prop} {target : Nat} {rest : List SourceOp}
    {yes no : Action ω Unit} (fits : Fits site place full)
    (evaluates : Evaluates setting run site place full fuel rounds start test cond)
    (code : CodeAt full start (cond ++ .popJumpIfFalse target :: rest))
    (here : At m site start stack s) {left : Nat} (le : left ≤ fuel)
    (pass : ∀ s' m', At m' site (start + cond.length + 1) stack s' →
      Leads setting.env site.outer left m' post (yes s'))
    (skip : ∀ s' m', At m' site target stack s' →
      Leads setting.env site.outer left m' post (no s')) :
    Leads setting.env site.outer (left + 1) m post ((do
      let value ← eval (interpreter setting run rounds place) test
      if value.isTruthy then yes else no) s) := by
  have tested := (evaluates code.left here rfl).mono (Nat.succ_le_succ le)
  apply Leads.bind tested
  intro value s' m' there
  have jump_at := code.right rfl
  cases truth : value.isTruthy with
  | true =>
    have executes : m'.level.execute setting.options (.popJumpIfFalse target)
        = .next { m'.level with stack := stack }.advance := by
      simp [Level.execute, Level.pop1, there.stack, truth]
    refine there.leads_next fits jump_at executes (pass _ _ ?_)
    exact { there with ip := by rw [← there.ip]; rfl, stack := rfl }
  | false =>
    have executes : m'.level.execute setting.options (.popJumpIfFalse target)
        = .next ({ m'.level with stack := stack }.jump target) := by
      simp [Level.execute, Level.pop1, there.stack, truth]
    refine there.leads_next fits jump_at executes (skip _ _ ?_)
    exact { there with ip := rfl, stack := rfl }

/-- A branch with its alternatives. -/
theorem Executes.branch {yes no : Action ω Unit} (fits : Fits site place full)
    (evaluates : Evaluates setting run site place full fuel rounds start test cond)
    (body : Executes setting site full (fuel + 1) (start + cond.length + 1) yes inner)
    (rest : Executes setting site full (fuel + 1) (start + cond.length + 1 + inner.length + 1) no others)
    (code : CodeAt full start (branchCode start cond inner others)) (here : At m site start stack s)
    (e : next = start + (branchCode start cond inner others).length) :
    Leads setting.env site.outer (fuel + 1) m (fun _ s' m' => At m' site next stack s') ((do
      let value ← eval (interpreter setting run rounds place) test
      if value.isTruthy then yes else no) s) := by
  have inner_at := (code.right rfl).tail rfl
  have end_eq : next = start + cond.length + 1 + inner.length + 1 + others.length := by
    rw [e, branchCode]
    simp only [List.length_append, List.length_cons]
    omega
  refine leads_test fits evaluates code here (Nat.le_refl fuel) (fun s' m' there => ?_)
    (fun s' m' there => ?_)
  · refine ((body inner_at.left there rfl).extend fun _ s' m' after => ?_).mono (Nat.le_succ fuel)
    rw [end_eq]
    exact after.exists_jump setting fits (inner_at.right rfl)
  · exact (rest ((inner_at.right rfl).tail rfl) there end_eq).mono (Nat.le_succ fuel)

theorem whileTrue_succ (test : Action ω Value) (body : Action ω Unit) (rounds : Nat) :
    Action.whileTrue test body (rounds + 1) = (do
      let value ← test
      if value.isTruthy then body >>= fun _ => Action.whileTrue test body rounds else pure ()) :=
  rfl

/-- Every round of a loop takes a step, so many rounds take as many steps. -/
theorem Executes.whileTrue {body : Action ω Unit} {rest : List SourceOp} (fits : Fits site place full)
    (evaluates : Evaluates setting run site place full fuel rounds start test cond)
    (runs : Executes setting site full (fuel + 1) (start + cond.length + 1) body inner)
    (code : CodeAt full start
      (cond ++ .popJumpIfFalse (start + cond.length + 1 + inner.length + 1)
        :: (inner ++ .jump start :: rest)))
    (e : next = start + cond.length + 1 + inner.length + 1) {left : Nat} (le : left ≤ fuel + 1)
    {m : Machine ω} {s : State ω} (here : At m site start stack s) :
    Leads setting.env site.outer left m (fun _ s' m' => At m' site next stack s')
      (Action.whileTrue (eval (interpreter setting run rounds place) test) body left s) := by
  induction left generalizing m s with
  | zero => exact ⟨0, m, Nat.zero_le _, .refl m⟩
  | succ left ih =>
    have inner_at := (code.right rfl).tail rfl
    rw [whileTrue_succ]
    refine leads_test fits evaluates code here (Nat.le_of_succ_le_succ le) (fun s' m' there => ?_)
      (fun s' m' there => ?_)
    · have round := (runs inner_at.left there rfl).mono (Nat.le_of_succ_le le)
      have again : Leads setting.env site.outer left m'
          (fun _ s'' m'' => At m'' site start stack s'') (body s') :=
        round.extend fun _ s'' m'' after => after.exists_jump setting fits (inner_at.right rfl)
      exact Leads.bind again fun _ s'' m'' back => ih (Nat.le_of_succ_le le) back
    · exact .pure { there with ip := there.ip.trans e.symm }

/-- The site in a loop over some items, of which a number has been taken. -/
def Site.inLoop (site : Site) (items : List Value) (taken : Nat) : Site :=
  { site with iters := some ⟨items, taken⟩ :: site.iters }

theorem Fits.inLoop (fits : Fits site place full) (items : List Value) (taken : Nat) :
    Fits (site.inLoop items taken) place full :=
  ⟨fits.loaded, fits.program, fits.macros, fits.depth, fits.includeDepth⟩

variable {var : String} {exit : Nat} {items : List Value}

/-- A round starts with the next item bound. -/
theorem At.exists_round (setting : Setting ω) {rest : List SourceOp} {done remaining : List Value} {item : Value}
    (split : items = done ++ item :: remaining)
    (here : At m (site.inLoop items done.length) start stack s) (fits : Fits site place full)
    (code : CodeAt full start (.forIter var exit :: rest)) :
    ∃ m', m.step setting.env = .inl m' ∧
      At m' (site.inLoop items (done.length + 1)) (start + 1) stack
        { s with scope :=
          (s.scope.bind var item).bind "loop" (Level.loopInfo done.length items.length) } := by
  have running : m.level.scope.top.iter = some ⟨items, done.length⟩ :=
    m.level.scope.top_iter here.iters
  have taken : LoopIter.advance? ⟨items, done.length⟩ = some (item, ⟨items, done.length + 1⟩) := by
    simp [LoopIter.advance?, split]
  have executes : m.level.execute setting.options (.forIter var exit)
      = .next { m.level with
          scope := ((m.level.scope.setIter ⟨items, done.length + 1⟩).bind var item).bind "loop"
            (Level.loopInfo done.length items.length)
          ip := m.level.ip + 1 } := by
    simp only [Level.execute, Level.iterate, running, taken]
    rfl
  have iters := m.level.scope.iters_setIter ⟨items, done.length + 1⟩ here.iters
  refine ⟨_, here.step_next (fits.inLoop items done.length) code executes, ?_⟩
  exact { here with
    ip := congrArg (· + 1) here.ip
    iters := by simpa [counting, Site.inLoop] using iters
    scope := by
      rw [← here.scope]
      simp [counting] }

/-- Without a next item the loop leaves its frame. -/
theorem At.exists_endLoop (setting : Setting ω) {rest : List SourceOp}
    (here : At m (site.inLoop items items.length) start stack s) (fits : Fits site place full)
    (code : CodeAt full start (.forIter var exit :: rest)) :
    ∃ m', m.step setting.env = .inl m' ∧
      At m' site exit stack { s with scope := s.scope.truncate (site.iters.length + 1) } := by
  have running : m.level.scope.top.iter = some ⟨items, items.length⟩ :=
    m.level.scope.top_iter here.iters
  have ended : LoopIter.advance? ⟨items, items.length⟩ = none := by
    simp [LoopIter.advance?]
  have executes : m.level.execute setting.options (.forIter var exit)
      = .next { m.level with
          scope := m.level.scope.truncate (site.iters.length + 1)
          ip := exit } := by
    simp only [Level.execute, Level.iterate, running, ended, m.level.scope.pop_eq_truncate here.iters]
    rfl
  have iters : m.level.scope.iters = [some ⟨items, items.length⟩] ++ site.iters := here.iters
  refine ⟨_, here.step_next (fits.inLoop items items.length) code executes, ?_⟩
  exact { here with
    ip := rfl
    iters := m.level.scope.iters_truncate iters
    scope := by
      rw [← here.scope]
      simp [counting] }

/-- The rounds of a loop take its items one after the other. -/
theorem Executes.forItems {body : Action ω Unit} {rest : List SourceOp} (fits : Fits site place full)
    (runs : ∀ taken, Executes setting (site.inLoop items taken) full (fuel + 1) (start + 1) body inner)
    (code : CodeAt full start (.forIter var exit :: (inner ++ .jump start :: rest)))
    {done remaining : List Value} (split : items = done ++ remaining) {m : Machine ω} {s : State ω}
    (here : At m (site.inLoop items done.length) start stack s) :
    Leads setting.env site.outer (fuel + 1) m
      (fun _ s' m' => At m' (site.inLoop items items.length) start stack s')
      (Action.forItems var items.length body done.length remaining s) := by
  induction remaining generalizing done m s with
  | nil =>
    rw [List.append_nil] at split
    rw [← split] at here
    exact .pure here
  | cons item remaining ih =>
    obtain ⟨m₁, first, bound⟩ := here.exists_round setting split fits code
    have inner_at := code.tail rfl
    refine Leads.mono (Leads.step first ?_) (Nat.le_succ _)
    change Leads _ _ _ _ _
      ((body >>= fun _ => Action.forItems var items.length body (done.length + 1) remaining) _)
    have again : Leads setting.env site.outer (fuel + 1) m₁
        (fun _ s'' m'' => At m'' (site.inLoop items (done.length + 1)) start stack s'')
        (body { s with scope :=
          (s.scope.bind var item).bind "loop" (Level.loopInfo done.length items.length) }) :=
      (runs (done.length + 1) inner_at.left bound rfl).extend fun _ s'' m'' after =>
        after.exists_jump setting (fits.inLoop items _) (inner_at.right rfl)
    apply Leads.bind again
    intro _ s'' m'' back
    have more : items = (done ++ [item]) ++ remaining := by
      rw [split, List.append_assoc, List.singleton_append]
    have next := ih more (by rw [List.length_append]; exact back)
    rw [List.length_append] at next
    exact next

/-- A loop over the items of a value. -/
theorem Executes.foreach {iterable : Expr} {ops inner : List SourceOp} {body : Action ω Unit}
    (fits : Fits site place full)
    (evaluates : Evaluates setting run site place full fuel rounds start iterable ops)
    (runs : ∀ items taken, Executes setting (site.inLoop items taken) full (fuel + 1)
      (start + ops.length + 2) body inner)
    (code : CodeAt full start (ops ++ .forStart :: .forIter var (start + ops.length + 2 + inner.length + 1)
      :: (inner ++ [.jump (start + ops.length + 1)])))
    (here : At m site start stack s) (e : next = start + ops.length + 2 + inner.length + 1) :
    Leads setting.env site.outer (fuel + 1) m (fun _ s' m' => At m' site next stack s') ((do
      let value ← eval (interpreter setting run rounds place) iterable
      match Level.loopItems value with
      | .error fault => Action.fail (.iteration 0 fault)
      | .ok items =>
        let depth ← Action.inspect (·.scope.depth)
        Action.onScope Scope.pushChild
        Action.forItems var items.length body 0 items
        Action.dropTo depth) s) := by
  apply Leads.bind (evaluates code.left here rfl)
  intro value s' m' there
  have start_at := code.right rfl
  cases found : Level.loopItems value with
  | error fault =>
    have executes : m'.level.execute setting.options .forStart
        = .fail (.iteration m'.level.ip fault) { m'.level with stack := stack } := by
      simp [Level.execute, Level.startLoop, Level.pop1, there.stack, found]
    exact there.leads_fail fits start_at executes rfl
  | ok items =>
    have executes : m'.level.execute setting.options .forStart = .next { m'.level with
        stack := stack
        scope := m'.level.scope.pushChild.setIter (.ofItems items)
        ip := m'.level.ip + 1 } := by
      simp [Level.execute, Level.startLoop, Level.pop1, there.stack, found, Level.advance]
    refine Leads.mono (there.leads_next fits start_at executes ?_) (Nat.le_succ _)
    have looping : At (counting m' { m'.level with
        stack := stack
        scope := m'.level.scope.pushChild.setIter (.ofItems items)
        ip := m'.level.ip + 1 }) (site.inLoop items 0) (start + ops.length + 1) stack
        { s' with scope := s'.scope.pushChild } := {
      there with
      ip := congrArg (· + 1) there.ip
      stack := rfl
      iters := by
        rw [Site.inLoop, ← there.iters]
        rfl
      scope := by
        rw [← there.scope]
        simp [counting] }
    have loop_at := start_at.tail rfl
    have depth : s'.scope.depth = site.iters.length + 1 := by
      rw [← there.scope, Scope.depth_plain, ← there.iters, Scope.length_iters]
      rfl
    change Leads _ _ _ _ _ ((Action.forItems var items.length body 0 items >>= fun _ =>
      Action.dropTo s'.scope.depth) { s' with scope := s'.scope.pushChild })
    have rounds := Executes.forItems fits (runs items) loop_at (List.nil_append items).symm looping
    refine Leads.bind rounds ?_
    intro _ s'' m'' after
    obtain ⟨m₁, last, ended⟩ := after.exists_endLoop setting fits loop_at
    refine ⟨1, m₁, .single last, ?_⟩
    rw [depth, e]
    exact ended

theorem At.exists_store (setting : Setting ω) {name : String} {value : Value}
    {rest : List SourceOp} (here : At m site start (value :: stack) s) (fits : Fits site place full)
    (code : CodeAt full start (.storeVar name :: rest)) :
    ∃ m', m.step setting.env = .inl m' ∧
      At m' site (start + 1) stack { s with scope := s.scope.bind name value } := by
  have executes : m.level.execute setting.options (.storeVar name) = .next { m.level with
      stack := stack, scope := m.level.scope.bind name value, ip := m.level.ip + 1 } := by
    simp [Level.execute, Level.pop1, here.stack, Level.advance]
  refine ⟨_, here.step_next fits code executes, ?_⟩
  exact { here with
    ip := congrArg (· + 1) here.ip
    stack := rfl
    iters := by simpa [counting] using here.iters
    scope := by simp [counting, here.scope] }

/-- The code of a macro binds the macro and skips its body. -/
theorem Executes.define {name : String} {params : List String} {first : Nat}
    (fits : Fits site place full) (before : macrosBefore full start = first)
    (code : CodeAt full start (.makeMacro ⟨name, params, start + 3⟩ :: .storeVar name
      :: .jump (start + 3 + inner.length + 1) :: (inner ++ [.macroReturn])))
    (here : At m site start stack s) (e : next = start + 3 + inner.length + 1) :
    Leads setting.env site.outer fuel m (fun _ s' m' => At m' site next stack s')
      (Action.bindVar name (.macroRef ⟨place.current.id, first, name, s.scope.current⟩) s) := by
  have id : m.level.loaded.id = place.current.id := by
    rw [here.loaded, fits.loaded]
    rfl
  have current : m.level.scope.current = s.scope.current := by
    rw [← here.scope, Scope.current_plain]
  have executes : m.level.execute setting.options
        ((Op.makeMacro ⟨name, params, start + 3⟩ : SourceOp).resolved (macrosBefore full start))
      = { m.level with stack := stack }.yield
        (.macroRef ⟨place.current.id, first, name, s.scope.current⟩) := by
    simp only [Op.resolved, Level.execute, before, id, current]
    rw [← here.stack]
  have made : Leads setting.env site.outer fuel m _ _ :=
    here.leads_yield [] fits code rfl executes
  apply made.andThen
  intro m₁ there
  obtain ⟨m₂, store, bound⟩ := there.exists_store setting fits (code.tail rfl)
  obtain ⟨m₃, jump, skipped⟩ :=
    bound.exists_jump setting fits ((code.tail rfl).tail rfl)
  rw [e]
  exact ⟨2, m₃, .step store (.single jump), skipped⟩

mutual

/-- Code of a node does what the node does. -/
theorem executes (simulates : Simulates setting fuel run) :
    ∀ {start node ops}, NodeCode place.current.options start node ops → ∀ {site first},
      Fits site place full → macrosBefore full start = first →
      Executes setting site full (fuel + 1) start
        (exec (interpreter setting run (fuel + 1) place) first node) ops
  | _, _, _, .noText => fun _ _ => fun _ here e => .pure { here with ip := here.ip.trans e.symm }
  | _, _, _, @NodeCode.text _ _ content visible => fun fits _ => fun code here e => by
    have means (first : Nat) : exec (interpreter setting run (fuel + 1) place) first (.text content)
        = Action.write setting.sink content := if_neg visible
    rw [means]
    have pushed : Leads setting.env _ (fuel + 1) _ _ _ :=
      here.leads_yield [] fits code rfl (by rw [← here.stack]; rfl)
    apply pushed.andThen
    intro m₁ there
    exact there.leads_print fits (code.tail rfl) e
  | _, _, _, .print value => fun fits _ => fun code here e => by
    apply Leads.bind (evaluates simulates fits value code.left here rfl)
    intro value s' m' there
    have printed : Leads setting.env _ (fuel + 1) _ _ _ :=
      there.leads_print fits (code.right rfl) rfl
    have mode : (Node.printMode place.current.options == .html)
        = place.current.options.autoEscape := by
      cases h : place.current.options.autoEscape <;> simp [Node.printMode, h]
    rw [mode] at printed
    rw [e, List.length_append]
    exact printed
  | _, _, _, .branch test body rest => fun fits before => fun code here e => by
    obtain ⟨inner_before, rest_before⟩ := macrosBefore_branch test.callees code before
      fun inner_at start_eq => body.located inner_at start_eq
    exact Executes.branch fits (evaluates simulates fits test)
      (executesList simulates body fits inner_before)
      (executesRest simulates rest fits rest_before) code here e
  | _, _, _, .foreach items body => fun fits before => fun code here e => by
    have start_at := code.right rfl
    have loop_before := code.macrosBefore_skip items.callees rfl before rfl
    have inner_before := (start_at.tail rfl).head.macrosBefore_eq rfl loop_before rfl
    refine Executes.foreach fits (evaluates simulates fits items)
      (fun values taken => executesList simulates body (fits.inLoop values taken) inner_before)
      code here ?_
    simp only [e, List.length_append, List.length_cons, List.length_nil]
    omega
  | _, _, _, .loop test body => fun fits before => fun code here e => by
    have inner_before := code.macrosBefore_skip test.callees rfl before rfl
    refine Executes.whileTrue fits (evaluates simulates fits test)
      (executesList simulates body fits inner_before) code ?_ (Nat.le_refl _) here
    simp only [e, List.length_append, List.length_cons, List.length_nil]
    omega
  | _, _, _, .assign value => fun fits _ => fun code here e => by
    apply Leads.bind (evaluates simulates fits value code.left here rfl)
    intro value s' m' there
    obtain ⟨m'', store, bound⟩ := there.exists_store setting fits (code.right rfl)
    rw [e, List.length_append]
    exact ⟨1, m'', .single store, bound⟩
  | _, _, _, .define body => fun fits before => fun code here e => by
    refine Executes.define fits before code here ?_
    simp only [e, List.length_append, List.length_cons, List.length_nil]
    omega
  | _, _, _, .inclusion template args => fun fits _ => fun code here e => by
    refine Leads.bind (evaluates simulates fits template code.left here rfl) ?_
    intro name s' m' there
    have args_at := code.right rfl
    refine Leads.bind (evaluatesArgs simulates fits args args_at.left there rfl) ?_
    rintro entries s'' m'' ⟨size, there'⟩
    have map_at := args_at.right rfl
    have made : Leads setting.env _ (fuel + 1) _ _ _ :=
      there'.leads_makeMap fits (size ▸ map_at) rfl
    apply made.andThen
    intro m₃ there₃
    refine there₃.leads_inclusion simulates fits (map_at.tail rfl) ?_
    simp only [e, List.length_append, List.length_cons, List.length_nil]
    omega

theorem executesRest (simulates : Simulates setting fuel run) :
    ∀ {start rest ops}, RestCode place.current.options start rest ops → ∀ {site first},
      Fits site place full → macrosBefore full start = first →
      Executes setting site full (fuel + 1) start
        (execRest (interpreter setting run (fuel + 1) place) first rest) ops
  | _, _, _, .done => fun _ _ => fun _ here e => .pure { here with ip := here.ip.trans e.symm }
  | _, _, _, .otherwise body => executesList simulates body
  | _, _, _, .elsif test body rest => fun fits before => fun code here e => by
    obtain ⟨inner_before, rest_before⟩ := macrosBefore_branch test.callees code before
      fun inner_at start_eq => body.located inner_at start_eq
    exact Executes.branch fits (evaluates simulates fits test)
      (executesList simulates body fits inner_before)
      (executesRest simulates rest fits rest_before) code here e

theorem executesList (simulates : Simulates setting fuel run) :
    ∀ {start body ops}, BodyCode place.current.options start body ops → ∀ {site first},
      Fits site place full → macrosBefore full start = first →
      Executes setting site full (fuel + 1) start
        (execList (interpreter setting run (fuel + 1) place) first body) ops
  | _, _, _, .nil => fun _ _ => fun _ here e => .pure { here with ip := here.ip.trans e.symm }
  | _, _, _, .cons node rest => fun fits before => fun code here e => by
    apply Leads.bind (executes simulates node fits before code.left here rfl)
    intro _ s' m' there
    refine executesList simulates rest fits ?_ (code.right rfl) there ?_
    · exact (node.located code.left before).macrosBefore_add code.left before rfl
    · rw [e, List.length_append, Nat.add_assoc]

end

end Meaning
end TemplateEngine
