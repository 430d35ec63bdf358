import TemplateEngine.Proofs.Machine.Scopes

/-!
# A frame from its push to its removal

Loops and macro calls push frames. As long as such a frame is there, all frames below
it are as they were at the push. It is taken off by the end of its loop, by the return
of its call, or, for a loop that a macro has begun and not ended, together with the
frame of the call. Each time the scope is then what it was before the lowest of the
frames that are gone.
-/

namespace TemplateEngine

namespace Scope

variable {b s : Scope} {p : Option Nat × Bool}

/-- Right above the frames of `b`, which are all there, there is a frame of the shape. -/
structure Over (b : Scope) (p : Option Nat × Bool) (s : Scope) : Prop where
  under : b.Under s
  shape : b.shape ++ [p] <+: s.shape

theorem Over.depth_lt (h : b.Over p s) : b.depth < s.depth := by
  have size := h.shape.length_le
  rwa [List.length_append, length_shape, length_shape, List.length_singleton] at size

theorem Over.getElem? (h : b.Over p s) : s.shape[b.depth]? = some p := by
  obtain ⟨rest, shape⟩ := h.shape
  simp [← shape]

theorem over_of_append (frames : ∃ f, s.frames = b.frames ++ [f]) (shape : s.shape = b.shape ++ [p]) :
    b.Over p s := by
  obtain ⟨f, frames⟩ := frames
  constructor
  · exact ⟨[f], frames.symm⟩
  · exact shape ▸ List.prefix_rfl

theorem over_startLoop (s : Scope) (iter : LoopIter) :
    s.Over (some s.current, true) (s.pushChild.setIter iter) :=
  over_of_append ((touched_setIter _ _).append s.frames_pushChild) (shape_startLoop s iter)

theorem over_bindAll {s s' : Scope} {parent : Nat} (pushed : s.pushWithParent parent = .ok s')
    (args : List (String × Value)) :
    s.Over (some parent, false) (args.foldl (fun s arg => s.bind arg.1 arg.2) s') := by
  apply over_of_append ((touched_bindAll _ _).append (frames_pushWithParent pushed))
  rw [shape_bindAll, (shape_pushWithParent pushed).2]

end Scope

namespace Level

variable {options : ExecutionOptions} {l l' : Level} {op : Program.Resolved} {b : Scope}
  {p : Option Nat × Bool}

/-- The operation pushes a frame. -/
def Pushes (l : Level) : Prop := l.fetch = .ok .forStart ∨ ∃ count, l.fetch = .ok (.macroCall count)

/-- Frames stay as they are as long as there is one on top of them. -/
theorem over_next (above : b.Over p l.scope) (fetched : l.fetch = .ok op)
    (does : l.Does options op (.next l')) (live : b.depth < l'.scope.depth) : b.Over p l'.scope := by
  constructor
  · exact under_next above.under above.depth_lt does (Nat.le_of_lt live)
  · apply (keeps_frames options (b.shape ++ [p])).next above.shape fetched does
    rwa [List.length_append, Scope.length_shape, List.length_singleton]

/-- The ends of loops and the returns of calls take frames off, and nothing else does. -/
theorem fewer_frames (does : l.Does options op (.next l')) (fewer : l'.scope.depth < l.scope.depth) :
    (∃ var exit, op = .forIter var exit) ∧
        (∃ iter, l.scope.top.iter = some iter ∧ iter.advance? = none) ∧ l.scope.pop = .ok l'.scope ∨
      op = .macroReturn ∧ l.calls ≠ [] := by
  cases does with
  | make | drop | jump | pass | skip | decided | undecided => exact absurd fewer (Nat.lt_irrefl _)
  | store | startLoop | round => exact absurd fewer (by simp)
  | endLoop running ended popped => exact .inl ⟨⟨_, _, rfl⟩, ⟨_, running, ended⟩, popped⟩
  | enterMacro _ _ _ _ _ _ pushed =>
    exact absurd (fewer.trans (Scope.over_bindAll pushed _).depth_lt) (Nat.lt_irrefl _)
  | leaveMacro calling => exact .inr ⟨rfl, by simp [calling]⟩

/-- A call is in progress above `n` others, with what is to be restored at its return. -/
structure Recorded (n : Nat) (record : Nat × Nat) (l : Level) : Prop where
  framed : l.Framed
  record : l.records[n]? = some record

theorem Recorded.depth_lt {n : Nat} {record : Nat × Nat} (h : l.Recorded n record) :
    record.2 < l.scope.depth := by
  have member := List.mem_of_getElem? h.record
  obtain ⟨c, known, rfl⟩ := List.mem_map.mp (List.mem_reverse.mp member)
  obtain ⟨parent, live⟩ := h.framed.live c.scopeDepth (List.mem_map_of_mem known)
  simpa using (List.getElem?_eq_some_iff.mp live).1

theorem recorded_law (options : ExecutionOptions) (n : Nat) (record : Nat × Nat) :
    LevelLaw options (fun l => n < l.calls.length) (Recorded n record) (Recorded n record) where
  next h fetched does inside :=
    ⟨h.framed.next does, (records_law options n record).next h.record fetched does inside⟩
  write h fetched does := ⟨(framed_law options fun _ => True).write h.framed fetched does,
    (records_law options n record).write h.record fetched does⟩
  enter h fetched does := ⟨(framed_law options fun _ => True).enter h.framed fetched does,
    (records_law options n record).enter h.record fetched does⟩
  resume h := ⟨(framed_law options fun _ => True).resume h.framed,
    (records_law options n record).resume h.record⟩
  blank same h := ⟨(framed_law options fun _ => True).blank same h.framed,
    (records_law options n record).blank same h.record⟩

end Level

namespace Machine

variable {ω : Type}

/-- The step from `m` pushes a frame, and this frame is there all the time up to `m'`. -/
structure Holds (env : Environment ω) (m m' : Machine ω) : Prop where
  pushes : m.level.Pushes
  there : ∃ m₁, m.step env = .inl m₁ ∧
    m₁.Through env (HasFrame m.outer.length m.level.scope.depth) m'

/-- The step from `m'` to `m''` takes off the frame that the step from `m` has pushed. -/
structure Removes (env : Environment ω) (m m' m'' : Machine ω) : Prop where
  held : m.Holds env m'
  step : m'.step env = .inl m''
  level : m.outer.length ≤ m''.outer.length
  gone : ¬ m''.HasFrame m.outer.length m.level.scope.depth

variable {env : Environment ω} {m m' m'' m₁ m₂ first : Machine ω} {k i n j : Nat} {l : Level}
  {s : Scope} {p : Option Nat × Bool} {P Q : Machine ω → Prop}

theorem Reaches.split (early : m.Reaches env n m₁) (late : m.Reaches env (n + j) m₂) :
    m₁.Reaches env j m₂ := by
  induction early with
  | refl => simpa using late
  | step next _ ih =>
    rw [Nat.add_right_comm] at late
    cases late with
    | step next' later =>
      cases next.symm.trans next'
      exact ih later

/-- Steps through machines with a property, up to one in between. -/
theorem Through.until (h : m.Through env P m') (early : m.Reaches env n m₁)
    (late : m₁.Reaches env j m') : m.Through env P m₁ := by
  induction h generalizing n with
  | refl here =>
    have none := (early.trans late).steps
    obtain rfl : n = 0 := by omega
    cases early
    exact .refl here
  | step here next _ ih =>
    cases early with
    | refl => exact .refl here
    | step next' early =>
      cases next.symm.trans next'
      exact .step here next (ih early late)

theorem Holds.until (h : m.Holds env m') (early : m.Reaches env (n + 1) m₁)
    (late : m₁.Reaches env j m') : m.Holds env m₁ := by
  obtain ⟨next, step, through⟩ := h.there
  cases early with
  | step step' early =>
    cases step.symm.trans step'
    exact ⟨h.pushes, next, step, through.until early late⟩

theorem Changes.outer (h : m.Changes env l m') : m'.outer = m.outer := by
  rw [h.result]

theorem Changes.level (h : m.Changes env l m') : m'.level = l := by
  rw [h.result]

/-- An operation that pushes a frame puts it on top of all others. It is the frame of a
loop or of a call. -/
theorem exists_pushed (pushes : m.level.Pushes) (step : m.step env = .inl m') :
    ∃ p l, m.Changes env l m' ∧ m.level.scope.Over p l.scope ∧
      (p.2 = true ↔ m.level.fetch = .ok .forStart) := by
  rcases pushes with begins | ⟨count, call⟩
  · obtain ⟨effect, does, goes⟩ := step_does begins step
    cases does with
    | make _ _ makes => cases makes
    | decided _ which | undecided _ _ which => simp at which
    | startLoop taken items =>
      cases goes
      refine ⟨_, _, ⟨⟨_, begins, .startLoop taken items⟩, rfl⟩, Scope.over_startLoop _ _, ?_⟩
      simp [begins]
    | fail => cases goes
  · obtain ⟨effect, does, goes⟩ := step_does call step
    cases does with
    | make _ _ makes => cases makes
    | decided _ which | undecided _ _ which => simp at which
    | enterMacro taken size own found arity room pushed =>
      cases goes
      refine ⟨_, _, ⟨⟨_, call, .enterMacro taken size own found arity room pushed⟩, rfl⟩,
        Scope.over_bindAll pushed _, ?_⟩
      simp [call]
    | fail => cases goes

/-- As long as a frame is there, the frames below it are as they were when it was pushed. -/
theorem Holds.above (h : m.Holds env m') :
    ∃ p s, m'.scopeAt? m.outer.length = some s ∧ m.level.scope.Over p s ∧
      (p.2 = true ↔ m.level.fetch = .ok .forStart) := by
  obtain ⟨m₁, first, through⟩ := h.there
  obtain ⟨p, l, changes, above, loop⟩ := exists_pushed h.pushes first
  have begins : ∃ s, m₁.scopeAt? m.outer.length = some s ∧ m.level.scope.Over p s := by
    rw [← changes.outer, scopeAt?_running, changes.level]
    exact ⟨_, rfl, above⟩
  have keeps : ∃ s, m'.scopeAt? m.outer.length = some s ∧ m.level.scope.Over p s := by
    apply through.preserves _ begins
    rintro m₂ m₃ ⟨s, found, above⟩ next there
    obtain ⟨s', found', live⟩ := hasFrame_iff.mp there
    rcases scopeAt?_step next there.follows.depth_le found with same | ⟨here, l, changes⟩
    · exact ⟨s, same, above⟩
    · obtain ⟨op, fetched, does⟩ := changes.does
      rw [← here, scopeAt?_running] at found
      rw [← here, ← changes.outer, scopeAt?_running, changes.level] at found' ⊢
      cases found
      cases found'
      exact ⟨_, rfl, Level.over_next above fetched does live⟩
  obtain ⟨s, found, above⟩ := keeps
  exact ⟨p, s, found, above, loop⟩

/-- As long as a call is in progress its record is there. -/
theorem recorded_of_calling {count : Nat} (call : m.level.fetch = .ok (.macroCall count))
    (framed : m.level.Framed) (first : m.step env = .inl m₁)
    (through : m₁.Through env (Calling m.outer.length m.level.calls.length) m') :
    m'.Follows m.outer.length
      (Level.Recorded m.level.calls.length (m.level.ip + 1, m.level.scope.depth))
      (Level.Recorded m.level.calls.length (m.level.ip + 1, m.level.scope.depth)) := by
  obtain ⟨p, l, changes, -, -⟩ := exists_pushed (.inr ⟨count, call⟩) first
  obtain ⟨op, fetched, does⟩ := changes.does
  have runs : m₁.level.Framed := changes.level ▸ framed.next does
  obtain ⟨_, _, _, _, _, -, -, -, -, -, rfl⟩ := step_call call first
  apply through.preserves _ (.running rfl ⟨runs, by simp [Level.records]⟩)
  intro m₂ m₃ holds next calling
  exact holds.step (Level.recorded_law env.options _ _) next calling.depth_le calling.of_depth

/-- The frame of a call is there until the call returns. -/
theorem ReturnsAt.holds (h : m.ReturnsAt env m') (framed : m.level.Framed) : m.Holds env m' := by
  obtain ⟨count, call⟩ := h.call
  obtain ⟨m₁, first, through⟩ := h.body
  have frame {m₂ : Machine ω}
      (calling : m₁.Through env (Calling m.outer.length m.level.calls.length) m₂) :
      m₂.HasFrame m.outer.length m.level.scope.depth :=
    follows_iff.mp ((recorded_of_calling call framed first calling).imp
      (fun _ recorded => recorded.depth_lt) fun _ recorded => recorded.depth_lt)
  have both : m₁.Through env (Calling m.outer.length m.level.calls.length) m' ∧
      m₁.Through env (HasFrame m.outer.length m.level.scope.depth) m' := by
    apply through.preserves _ ⟨.refl through.first, .refl (frame (.refl through.first))⟩
    rintro m₂ m₃ ⟨calls, frames⟩ next calling
    have later := calls.snoc next calling
    exact ⟨later, frames.snoc next (frame later)⟩
  exact ⟨.inr ⟨count, call⟩, m₁, first, both.2⟩

/-- A return leaves the scope as it was at the call. -/
theorem ReturnsAt.scope (h : m.ReturnsAt env m') (framed : m.level.Framed)
    (step : m'.step env = .inl m'') : m''.level.scope = m.level.scope := by
  obtain ⟨p, s, found, above, -⟩ := (h.holds framed).above
  rw [← h.outer, scopeAt?_running] at found
  cases found
  have framed' : m'.level.Framed := by
    apply h.law (Level.framed_law env.options _)
    intro m₁ first
    obtain ⟨p, l, changes, -, -⟩ := exists_pushed (.inr h.call) first
    obtain ⟨op, fetched, does⟩ := changes.does
    exact changes.level ▸ framed.next does
  have depth := (h.restores framed' step).1
  obtain ⟨c, calls, -, rfl⟩ := step_return h.leaves step
  have under : m.level.scope.Under (m'.level.scope.truncate c.scopeDepth) :=
    above.under.of_depth_le (Scope.frames_truncate _ _) (Nat.le_of_eq depth.symm)
  exact (under.eq_of_depth (Nat.le_of_eq depth)).symm

/-- As long as the frame of a call is there, the call is in progress. -/
theorem Holds.calling {count : Nat} (h : m.Holds env m')
    (call : m.level.fetch = .ok (.macroCall count)) (framed : m.level.Framed) :
    ∃ m₁, m.step env = .inl m₁ ∧
      m₁.Through env (Calling m.outer.length m.level.calls.length) m' := by
  obtain ⟨m₁, first, through⟩ := h.there
  refine ⟨m₁, first, ?_⟩
  have begins : m₁.Calling m.outer.length m.level.calls.length := by
    obtain ⟨_, _, _, _, _, -, -, -, -, -, rfl⟩ := step_call call first
    exact .running rfl (Nat.lt_succ_self _)
  apply through.preserves _ (.refl begins)
  intro m₂ m₃ calling next there
  apply calling.snoc next
  by_contra left
  obtain ⟨outer, calls, leaves⟩ := calling_exit calling.last next there.follows.depth_le left
  have returns : m.ReturnsAt env m₂ := ⟨⟨count, call⟩, ⟨m₁, first, calling⟩, outer, calls, leaves⟩
  have scope := returns.scope framed next
  obtain ⟨c, rest, -, rfl⟩ := step_return leaves next
  have deep := there.follows.of_depth outer
  rw [scope] at deep
  exact Nat.lt_irrefl _ deep

end Machine
end TemplateEngine
