import TemplateEngine.Proofs.Machine.Pushed

/-!
# Scopes are restored

Whatever programs do, valid or not, what a loop or a call binds is gone with its frame,
and nothing else is: `scopes_restored` says so for runs of any programs. Inclusions run
in scopes of their own.
-/

namespace TemplateEngine

namespace Level

variable {options : ExecutionOptions} {l l' : Level} {op : Program.Resolved}

/-- Loops and calls push one frame each, and nothing else pushes any. -/
theorem more_frames (does : l.Does options op (.next l')) (more : l.scope.depth < l'.scope.depth) :
    (op = .forStart ∨ ∃ count, op = .macroCall count) ∧ l'.scope.depth = l.scope.depth + 1 := by
  cases does with
  | make | drop | jump | pass | skip | decided | undecided => exact absurd more (Nat.lt_irrefl _)
  | store | round => exact absurd more (by simp)
  | startLoop => exact ⟨.inl rfl, by simp⟩
  | endLoop _ _ popped =>
    have size := congrArg List.length (Scope.frames_pop popped)
    simp only [Scope.length_frames, List.length_append, List.length_singleton] at size more
    omega
  | enterMacro _ _ _ _ _ _ pushed =>
    refine ⟨.inr ⟨_, rfl⟩, ?_⟩
    have size := congrArg List.length (Scope.shape_pushWithParent pushed).2
    rw [← Scope.length_shape, Scope.shape_bindAll]
    simpa using size
  | leaveMacro =>
    simp only [Scope.depth_truncate] at more
    omega

end Level

namespace Machine

variable {ω : Type} {env : Environment ω} {first m m' m'' m₀ m₁ : Machine ω} {k i j n : Nat} {s : Scope}
  {loaded : Loaded} {vars : Vars} {surroundings : ω} {o : Outcome ω}

/-- Each frame above a root was pushed in the run and has been there ever since. -/
theorem exists_holds (reaches : (start loaded vars surroundings).Reaches env n m)
    (found : m.scopeAt? k = some s) (pos : 0 < i) (live : i < s.depth) :
    ∃ j m₀, (start loaded vars surroundings).Reaches env j m₀ ∧ m₀.Holds env m ∧
      m₀.outer.length = k ∧ m₀.level.scope.depth = i := by
  have through := reaches.through (P := fun _ => True) fun _ => trivial
  have after : m.HasFrame k i := hasFrame_iff.mpr ⟨s, found, live⟩
  rcases through.through_or_entry after with all | ⟨m₀, m₁, early, before, step, later⟩
  · obtain ⟨s₀, known, deep⟩ := hasFrame_iff.mp all.first
    obtain rfl : k = 0 := Nat.le_zero.mp (le_of_scopeAt? known)
    cases known
    exact absurd deep (Nat.not_lt.mpr pos)
  · obtain ⟨j, early⟩ := early.reaches
    obtain ⟨s₁, known, deep⟩ := hasFrame_iff.mp later.first
    rcases scopeAt?_back step known with same | ⟨here, l, changes⟩ | ⟨here, starts⟩
    · exact absurd (hasFrame_iff.mpr ⟨s₁, same, deep⟩) before
    · subst here
      obtain ⟨op, fetched, does⟩ := changes.does
      rw [← changes.outer, scopeAt?_running, changes.level] at known
      cases known
      have shallow : m₀.level.scope.depth ≤ i := by
        by_contra more
        exact before (hasFrame_iff.mpr ⟨_, scopeAt?_running m₀, Nat.lt_of_not_le more⟩)
      obtain ⟨pushes, depth⟩ := Level.more_frames does (Nat.lt_of_le_of_lt shallow deep)
      obtain rfl : m₀.level.scope.depth = i := by omega
      refine ⟨j, m₀, early, ⟨?_, m₁, step, later⟩, rfl, rfl⟩
      rcases pushes with rfl | ⟨count, rfl⟩
      · exact .inl fetched
      · exact .inr ⟨count, fetched⟩
    · obtain ⟨-, -, -, -, -, started, -⟩ := starts
      rw [← here, scopeAt?_running, started] at known
      cases known
      exact absurd deep (Nat.not_lt.mpr pos)

/-- A frame is taken off by the level that it belongs to. -/
theorem Removes.changes (h : m.Removes env m' m'') :
    m'.outer.length = m.outer.length ∧ ∃ l, m'.Changes env l m'' ∧
      l.scope.depth ≤ m.level.scope.depth := by
  obtain ⟨p, s, found, above, -⟩ := h.held.above
  rcases scopeAt?_step h.step h.level found with same | ⟨here, l, changes⟩
  · exact absurd (hasFrame_iff.mpr ⟨s, same, above.depth_lt⟩) h.gone
  · refine ⟨here, l, changes, ?_⟩
    by_contra more
    apply h.gone
    rw [← here, ← changes.outer, hasFrame_iff]
    exact ⟨_, scopeAt?_running m'', changes.level ▸ Nat.lt_of_not_le more⟩

theorem Holds.reaches (h : m.Holds env m') : ∃ n, m.Reaches env n m' := by
  obtain ⟨m₁, first, through⟩ := h.there
  obtain ⟨n, later⟩ := through.reaches
  exact ⟨n + 1, .step first later⟩

/-- Of two frames of a level that are both there the lower one was pushed first. -/
theorem Holds.nested (inner : m.Holds env m') (outer : m₀.Holds env m')
    (level : m.outer.length = m₀.outer.length) (lower : m₀.level.scope.depth < m.level.scope.depth)
    (reaches : first.Reaches env n m) (reaches₀ : first.Reaches env j m₀) : m₀.Holds env m := by
  rcases Nat.lt_or_ge j n with before | after
  · obtain ⟨i, rfl⟩ := Nat.exists_eq_add_of_lt before
    obtain ⟨rest, later⟩ := inner.reaches
    exact outer.until (reaches₀.split reaches) later
  · obtain ⟨i, rfl⟩ := Nat.exists_eq_add_of_le after
    have between := reaches.split reaches₀
    cases i with
    | zero =>
      cases between
      exact absurd lower (Nat.lt_irrefl _)
    | succ i =>
      obtain ⟨rest, later⟩ := outer.reaches
      obtain ⟨p, s, found, above, -⟩ := (inner.until between later).above
      rw [level, scopeAt?_running] at found
      cases found
      exact absurd (lower.trans above.depth_lt) (Nat.lt_irrefl _)

/-- A return that takes the frame of a call off is the return of that call. -/
theorem Removes.returnsAt {count : Nat} (h : m.Removes env m' m'')
    (call : m.level.fetch = .ok (.macroCall count)) (framed : m.level.Framed)
    (leaves : m'.level.fetch = .ok .macroReturn) : m.ReturnsAt env m' := by
  obtain ⟨here, l, changes, shallow⟩ := h.changes
  obtain ⟨m₁, first, through⟩ := h.held.calling call framed
  refine ⟨⟨count, call⟩, ⟨m₁, first, through⟩, here, ?_, leaves⟩
  have calls := through.last.of_depth here
  by_contra others
  -- A call inside of it would leave it in progress, and so leave its frame.
  have recorded := recorded_of_calling call framed first through
  have stays := recorded.step (Level.recorded_law env.options _ _) h.step h.level ?_
  · have deep := (stays.of_depth (changes.outer ▸ here)).depth_lt
    rw [changes.level] at deep
    exact absurd deep (Nat.not_lt.mpr shallow)
  · obtain ⟨c, rest, calling, rfl⟩ := step_return leaves h.step
    rw [calling, List.length_cons] at calls others
    intro
    simp only
    omega

/-- A loop at its end takes the frame off that it has pushed. -/
theorem Removes.of_pop (h : m.Removes env m' m'') (here : m'.outer.length = m.outer.length)
    (popped : m'.level.scope.pop = .ok m''.level.scope)
    (shallow : m''.level.scope.depth ≤ m.level.scope.depth)
    (running : m'.level.scope.top.iter.isSome = true) :
    m.level.fetch = .ok .forStart ∧ m''.level.scope = m.level.scope := by
  obtain ⟨p, s, found, above, loop⟩ := h.held.above
  rw [← here, scopeAt?_running] at found
  cases found
  have frames := Scope.frames_pop popped
  have depth : m''.level.scope.depth = m.level.scope.depth := by
    have size := congrArg List.length frames
    have more := above.depth_lt
    simp only [Scope.length_frames, List.length_append, List.length_singleton] at size
    omega
  have top : m'.level.scope.shape[m''.level.scope.depth]? = some m'.level.scope.top.shape := by
    rw [Scope.shape, frames]
    simp
  rw [depth, above.getElem?] at top
  have same : m.level.scope.Under m''.level.scope :=
    above.under.of_depth_le ⟨_, frames.symm⟩ (Nat.le_of_eq depth.symm)
  refine ⟨loop.mp ?_, (same.eq_of_depth (Nat.le_of_eq depth)).symm⟩
  rw [Option.some.inj top]
  exact running

/-- A return that takes the frame of a loop off takes that of a call around the loop off, too. -/
theorem Removes.of_return (h : m.Removes env m' m'')
    (reaches : (start loaded vars surroundings).Reaches env n m)
    (begins : m.level.fetch = .ok .forStart) (leaves : m'.level.fetch = .ok .macroReturn)
    (called : m'.level.calls ≠ []) :
    ∃ m₀ : Machine ω, m₀.Holds env m ∧ m₀.ReturnsAt env m' ∧ m''.level.scope = m₀.level.scope := by
  obtain ⟨here, l, changes, shallow⟩ := h.changes
  obtain ⟨j, later⟩ := h.held.reaches
  obtain ⟨i, first, given, vars', depth, early, started, executes, same⟩ :=
    exists_start (reaches.trans later)
  obtain ⟨m₀, executed, returns⟩ := exists_returnsAt started executes same leaves called
  obtain ⟨rest, executed⟩ := executed.reaches
  have reaches₀ := early.trans executed
  have framed₀ := (framed_of_reaches reaches₀).level
  have scope := returns.scope framed₀ h.step
  have held := returns.holds framed₀
  refine ⟨m₀, ?_, returns, scope⟩
  refine h.held.nested held (here.symm.trans returns.outer) ?_ reaches reaches₀
  -- The two frames are at different places, as one is that of a loop and the other is not.
  obtain ⟨p, s, found, above, loop⟩ := h.held.above
  rw [← here, scopeAt?_running] at found
  cases found
  obtain ⟨p₀, s₀, found₀, above₀, loop₀⟩ := held.above
  rw [← returns.outer, scopeAt?_running] at found₀
  cases found₀
  rw [changes.level] at scope
  refine Nat.lt_of_le_of_ne (scope ▸ shallow) fun equal => ?_
  have shape := above₀.getElem?
  rw [equal, above.getElem?] at shape
  obtain rfl := Option.some.inj shape
  obtain ⟨count, call⟩ := returns.call
  cases call.symm.trans (loop₀.mp (loop.mpr begins))

/-- What a step that takes a frame off leaves of the scope. -/
theorem Removes.restores (h : m.Removes env m' m'')
    (reaches : (start loaded vars surroundings).Reaches env n m) :
    (m.level.fetch = .ok .forStart ∧ (∃ var exit, m'.level.fetch = .ok (.forIter var exit)) ∧
        (∃ iter, m'.level.scope.top.iter = some iter ∧ iter.advance? = none) ∧
        m''.level.scope = m.level.scope) ∨
      (m.ReturnsAt env m' ∧ m''.level.scope = m.level.scope) ∨
      (m.level.fetch = .ok .forStart ∧ ∃ m₀ : Machine ω, m₀.Holds env m ∧ m₀.ReturnsAt env m' ∧
        m''.level.scope = m₀.level.scope) := by
  obtain ⟨here, l, changes, shallow⟩ := h.changes
  obtain ⟨op, fetched, does⟩ := changes.does
  obtain ⟨p, s, found, above, -⟩ := h.held.above
  rw [← here, scopeAt?_running] at found
  cases found
  rw [← changes.level] at does shallow
  rcases Level.fewer_frames does (Nat.lt_of_le_of_lt shallow above.depth_lt) with
    ⟨⟨var, exit, rfl⟩, ⟨iter, running, ended⟩, popped⟩ | ⟨rfl, calls⟩
  · obtain ⟨begins, scope⟩ := h.of_pop here popped shallow (by simp [running])
    exact .inl ⟨begins, ⟨var, exit, fetched⟩, ⟨iter, running, ended⟩, scope⟩
  · rcases h.held.pushes with begins | ⟨count, call⟩
    · exact .inr (.inr ⟨begins, h.of_return reaches begins fetched calls⟩)
    · have framed := (framed_of_reaches reaches).level
      have returns := h.returnsAt call framed fetched
      exact .inr (.inl ⟨returns, returns.scope framed h.step⟩)

/-- The template that the step from `m` starts runs in `m'`, or one that it includes. -/
structure Includes (env : Environment ω) (m m' : Machine ω) : Prop where
  begins : m.level.fetch = .ok .inclusion
  runs : ∃ m₁, m.step env = .inl m₁ ∧
    m₁.Through env (fun m₂ => m.outer.length < m₂.outer.length) m'

/-- While an included template runs, the scope at the inclusion stays as it is. -/
theorem Includes.scope (h : m.Includes env m') : m'.scopeAt? m.outer.length = some m.level.scope := by
  obtain ⟨m₁, first, through⟩ := h.runs
  have begins : m₁.scopeAt? m.outer.length = some m.level.scope := by
    rcases scopeAt?_step first (Nat.le_of_lt through.first) (scopeAt?_running m) with
      same | ⟨-, l, changes⟩
    · exact same
    · exact absurd through.first (changes.outer ▸ Nat.lt_irrefl _)
  have both : m.outer.length < m'.outer.length ∧
      m'.scopeAt? m.outer.length = some m.level.scope := by
    apply through.preserves _ ⟨through.first, begins⟩
    rintro m₂ m₃ ⟨deep, kept⟩ next deep'
    refine ⟨deep', ?_⟩
    rcases scopeAt?_step next (Nat.le_of_lt deep') kept with same | ⟨here, -⟩
    · exact same
    · exact absurd deep (here ▸ Nat.lt_irrefl _)
  exact both.2

/-- An included template goes on, or the one that includes it does, in its scope. -/
theorem Includes.step (h : m.Includes env m') (next : m'.step env = .inl m'') :
    m.Includes env m'' ∨ m''.outer.length = m.outer.length ∧ m''.level.scope = m.level.scope := by
  obtain ⟨m₁, first, through⟩ := h.runs
  by_cases deep : m.outer.length < m''.outer.length
  · exact .inl ⟨h.begins, m₁, first, through.snoc next deep⟩
  · have size : m''.outer.length = m.outer.length := by
      have before := through.last
      rcases scopes_of_step next with ⟨l, changes⟩ | same | ⟨-, more⟩ | ⟨-, fewer⟩
      · exact absurd before (changes.outer ▸ deep)
      · have size := congrArg List.length same
        simp only [length_scopes] at size
        omega
      · have size := congrArg List.length more
        simp only [length_scopes, List.length_cons] at size
        omega
      · have size := congrArg List.length fewer
        simp only [length_scopes, List.length_cons] at size
        omega
    refine .inr ⟨size, ?_⟩
    rcases scopeAt?_step next (Nat.le_of_eq size.symm) h.scope with same | ⟨here, -⟩
    · rw [← size, scopeAt?_running] at same
      exact Option.some.inj same
    · exact absurd through.last (here ▸ Nat.lt_irrefl _)

theorem scopeAt?_zero (m : Machine ω) :
    m.scopeAt? 0 = some ((m.outer.getLast?.map Waiting.level).getD m.level).scope := by
  rw [scopeAt?, ← List.head?_eq_getElem?, List.head?_reverse, scopes, levels]
  cases h : m.outer.getLast? with
  | none => simp [List.getLast?_eq_none_iff.mp h]
  | some w => simp [List.getLast?_cons, h]

theorem scope_abort {e : RuntimeError} (outer : m'.outer = m.outer)
    (scope : m'.level.scope = m.level.scope) : m.scopeAt? 0 = some (m'.abort e).level.scope := by
  rw [scopeAt?_zero, abort, outcome, outer]
  cases m.outer.getLast? with
  | none => simp [scope]
  | some w => rfl

/-- The end of a run, with an error or without one, leaves the scopes as they are. -/
theorem scope_of_end (ended : m.step env = .inr o) : m.scopeAt? 0 = some o.level.scope := by
  rcases step_cases env m with ⟨steps, e, last⟩ | ⟨op, effect, fetched, does, goes⟩
  · cases ended.symm.trans last
    exact scope_abort rfl rfl
  · rw [ended] at goes
    cases goes with
    | refused | blocked | notFound | fail =>
      cases does
      exact scope_abort rfl rfl
    | finish level alone =>
      cases does
      rw [scopeAt?_zero, show m.outer = [] from alone]
      rfl

/-- How frames come and go in a run that starts with some variables. -/
structure Isolated (env : Environment ω) (vars : Vars) (first : Machine ω) : Prop where
  /-- Frames above a root were pushed in the run and have been there since then. -/
  pushed : ∀ {n m k s i}, first.Reaches env n m → m.scopeAt? k = some s → 0 < i → i < s.depth →
    ∃ j m₀, first.Reaches env j m₀ ∧ m₀.Holds env m ∧ m₀.outer.length = k ∧ m₀.level.scope.depth = i
  /-- As long as a frame is there, those below it have the same variables, parents and iterators. -/
  below : ∀ {n m m'}, first.Reaches env n m → m.Holds env m' →
    ∃ s, m'.scopeAt? m.outer.length = some s ∧ m.level.scope.depth < s.depth ∧
      ∀ i < m.level.scope.depth, s.frame? i = m.level.scope.frame? i
  /-- A frame is taken off at its own level: by the end of its loop, by the return of its
  call, or by the return of a call in which its loop has begun. The scope is then as it
  was before the frame of this loop or call. -/
  removed : ∀ {n m m' m''}, first.Reaches env n m → m.Removes env m' m'' →
    m'.outer.length = m.outer.length ∧ m''.outer.length = m.outer.length ∧
      ((m.level.fetch = .ok .forStart ∧ (∃ var exit, m'.level.fetch = .ok (.forIter var exit)) ∧
          (∃ iter, m'.level.scope.top.iter = some iter ∧ iter.advance? = none) ∧
          m''.level.scope = m.level.scope) ∨
        (m.ReturnsAt env m' ∧ m''.level.scope = m.level.scope) ∨
        (m.level.fetch = .ok .forStart ∧ ∃ m₀ : Machine ω, m₀.Holds env m ∧ m₀.ReturnsAt env m' ∧
          m''.level.scope = m₀.level.scope))
  /-- The scope at an inclusion stays as it is, up to the instruction after it. -/
  included : ∀ {n m m'}, first.Reaches env n m → m.Includes env m' →
    m'.scopeAt? m.outer.length = some m.level.scope ∧ ∀ m'', m'.step env = .inl m'' →
      m.Includes env m'' ∨ m''.outer.length = m.outer.length ∧ m''.level.scope = m.level.scope
  /-- A run ends, be it with an error, in the scope that the outermost level has. -/
  ended : ∀ {n m o}, first.Reaches env n m → m.step env = .inr o → m.scopeAt? 0 = some o.level.scope
  /-- A run that follows sees the variables of the caller as they were. -/
  again : ∀ {fuel o loaded name}, run env fuel first = some o →
    (start loaded vars o.surroundings).level.scope.lookup name = vars.get? name

/-- Any run, of programs that are valid or not, isolates its scopes. -/
theorem scopes_isolated (env : Environment ω) (loaded : Loaded) (vars : Vars) (surroundings : ω) :
    (start loaded vars surroundings).Isolated env vars := by
  constructor
  case pushed => exact exists_holds
  case below =>
    intro n m m' _ held
    obtain ⟨p, s, found, above, -⟩ := held.above
    exact ⟨s, found, above.depth_lt, fun i live => above.under.frame? live⟩
  case removed =>
    intro n m m' m'' reaches removes
    obtain ⟨here, l, changes, -⟩ := removes.changes
    exact ⟨here, changes.outer ▸ here, removes.restores reaches⟩
  case included => exact fun _ includes => ⟨includes.scope, fun _ => includes.step⟩
  case ended => exact fun _ => scope_of_end
  case again =>
    intro fuel o loaded name _
    cases found : vars.get? name <;>
      simp [start, Level.start, Scope.lookup, Scope.path, Scope.pathFrom, Scope.ofVars,
        Scope.depth, Scope.current, Scope.frame?, found]

end Machine

namespace Early

/-- A macro that begins a loop and returns in its first round. -/
def program : Loaded where
  id := 0
  program := {
    name := "page"
    constants := #[]
    names := #["xs", "x"]
    macros := #[⟨"m", [], 4⟩]
    instructions := #[.makeMacro 0, .macroCall 0, .print .raw, .finish,
      .loadVar 0, .forStart, .forIter 1 8, .macroReturn, .macroReturn] }

def environment : Environment Unit := ⟨{}, none, .unlimited⟩

/-- The machine after some steps. -/
def after : Nat → Machine Unit
  | 0 => .start program [("xs", .list [.int 1, .int 2])] ()
  | n + 1 => ((after n).step environment).elim id fun _ => after n

/-- The return takes the frame of the loop off together with the one of the call. -/
theorem scopes_isolated_early_return :
    (after 3).Removes environment (after 5) (after 6) ∧
      ∃ m₀ : Machine Unit, m₀.Holds environment (after 3) ∧ m₀.ReturnsAt environment (after 5) ∧
        (after 6).level.scope = m₀.level.scope := by
  have reaches : (after 0).Reaches environment 3 (after 3) :=
    .step rfl (.step rfl (.step rfl (.refl _)))
  have removes : (after 3).Removes environment (after 5) (after 6) := by
    refine ⟨⟨.inl rfl, after 4, rfl, .step ?_ rfl (.refl ?_)⟩, rfl, by decide, ?_⟩
    · exact ⟨_, rfl, by decide⟩
    · exact ⟨_, rfl, by decide⟩
    · rintro ⟨l, found, deep⟩
      cases found
      exact absurd deep (by decide)
  refine ⟨removes, ?_⟩
  obtain ⟨-, -, ended | ⟨returns, -⟩ | ⟨-, early⟩⟩ :=
    (Machine.scopes_isolated environment program _ ()).removed reaches removes
  · obtain ⟨-, ⟨var, exit, iterates⟩, -⟩ := ended
    cases iterates
  · obtain ⟨count, call⟩ := returns.call
    cases call
  · exact early

end Early
end TemplateEngine
