import TemplateEngine.Proofs.Machine.Rounds

/-!
# Loops run over their items

A machine that comes to a `FOREACH` block evaluates the collection, enters the body once
for each item, and leaves the block in the scope in which it came to it.
-/

namespace TemplateEngine

/-- A loop in the code of a program: its head, its body, and the jump back to the head. -/
structure LoopCode (r : Region) (head : Nat) (var : String) : Prop where
  start : r.start = head + 1
  left : r.left = 0
  iterates : CodeAt r.full head [.forIter var (r.stop + 1)]
  again : CodeAt r.full r.stop [.jump head]
  begins : Fenced r.start r.ops r.left ⟨r.start, 0, 0, false⟩
  goesOn : ∀ op ∈ r.ops, op ≠ .finish

theorem Op.evaluates_resolved (n : Nat) (op : SourceOp) : (op.resolved n).Evaluates ↔ op.Evaluates := by
  cases op <;> rfl

/-- What a lookup finds where a round begins; the metadata is bound after the item. -/
structure Level.Begins (var : String) (items : List Value) (i : Nat) (l : Level) : Prop where
  item : var ≠ "loop" → l.scope.lookup var = items[i]?
  metadata : l.scope.lookup "loop" = some (.map [("count", .ofNat (i + 1)),
    ("first", .bool (decide (i = 0))), ("index", .ofNat i),
    ("last", .bool (decide (i + 1 = items.length))), ("size", .ofNat items.length)])

theorem Level.loopInfo_eq (i n : Nat) : loopInfo i n = .map [("count", .ofNat (i + 1)),
    ("first", .bool (decide (i = 0))), ("index", .ofNat i), ("last", .bool (decide (i + 1 = n))),
    ("size", .ofNat n)] := by
  simp (disch := decide) only [loopInfo, Bindings.ofList, Bindings.insertAll_cons,
    Bindings.insertAll_nil, Bindings.insert, beq_eq_decide, if_pos, if_neg]

namespace Machine

variable {ω : Type}

/-- The level that runs in `m`, in the calls that it is in there, is at a place in `m'`. -/
structure Stands (m : Machine ω) (place : Nat) (m' : Machine ω) : Prop where
  outer : m'.outer.length = m.outer.length
  calls : m'.level.calls.length = m.level.calls.length
  place : m'.level.ip = place

/-- The step from `m'` to `m''` enters a body behind the head of its loop, in the level
and the calls of `m`. -/
abbrev Enters (m : Machine ω) (head : Nat) (m' m'' : Machine ω) : Prop :=
  m.Stands head m' ∧ m.Stands (head + 1) m''

/-- The level of `m` executes a piece of code that it is at the start of in `m`. -/
abbrev Stays (m : Machine ω) (r : Region) (m' : Machine ω) : Prop :=
  m'.Follows m.outer.length (Level.Inside r m.level.ground) fun l => l.advance.Inside r m.level.ground

/-- An expression that the level of `m` is at the start of in `m` is being evaluated. -/
structure Evaluates (m : Machine ω) (r : Region) (m' : Machine ω) : Prop where
  within : m.Stays r m'
  still : m'.Follows m.outer.length (Level.Still m.level.scope m.level.calls.length)
    (Level.Still m.level.scope m.level.calls.length)

/-- Of the loop that `m` is at the head of, `i` rounds have begun. -/
inductive Rounds (r : Region) (items : List Value) (b : Scope) (m : Machine ω) (i : Nat)
    (m' : Machine ω) : Prop
  | head : m.Stands m.level.ip m' → m'.level.loaded.program = .ofOps r.name r.full →
      m'.level.At m.level.ground ⟨m.level.ip, 0, 0, false⟩ → b.Looping ⟨items, i⟩ m'.level.scope →
      Rounds r items b m i m'
  | body : m.Stays r m' → m'.Follows m.outer.length (fun l => b.Looping ⟨items, i⟩ l.scope)
      (fun l => b.Looping ⟨items, i⟩ l.scope) → Rounds r items b m i m'

variable {env : Environment ω} {m m' m'' m₁ m₂ : Machine ω} {r : Region} {k i n place head : Nat}
  {var : String} {items : List Value} {b : Scope} {before running waiting : Level → Prop}

theorem Follows.now (h : m.Follows k running waiting)
    (meets : m.outer.length = k → running m.level → before m.level) : m.Follows k before waiting := by
  cases h with
  | running depth runs => exact .running depth (meets depth runs)
  | waiting outer depth waits => exact .waiting outer depth waits

/-- A level is there until it ends. -/
theorem Follows.there (h : m.Follows k running waiting)
    (goesOn : m.outer.length = k → m.level.fetch ≠ .ok .finish) (first : m.step env = .inl m') :
    k ≤ m'.outer.length := by
  have live := h.depth_le
  rcases scopes_of_step first with ⟨l, changes⟩ | same | ⟨-, more⟩ | ⟨ends, fewer⟩
  · exact changes.outer ▸ live
  · have size := congrArg List.length same
    simp only [length_scopes] at size
    omega
  · have size := congrArg List.length more
    simp only [length_scopes, List.length_cons] at size
    omega
  · have size := congrArg List.length fewer
    simp only [length_scopes, List.length_cons] at size
    by_cases here : m.outer.length = k
    · exact absurd ends (goesOn here)
    · omega

theorem Stays.ne_finish (h : m.Stays r m') (goesOn : ∀ op ∈ r.ops, op ≠ .finish)
    (more : ¬ m.Stands r.stop m') (here : m'.outer.length = m.outer.length) :
    m'.level.fetch ≠ .ok .finish := by
  apply (h.of_depth here).ne_finish goesOn
  intro own place
  exact more ⟨here, own.trans (Level.length_records _), place⟩

/-- A level stays in a piece of code that it has begun. -/
theorem Stays.step (h : m.Stays r m') (goesOn : ∀ op ∈ r.ops, op ≠ .finish)
    (more : ¬ m.Stands r.stop m') (first : m'.step env = .inl m'') :
    m.outer.length ≤ m''.outer.length ∧ m.Stays r m'' := by
  have there := Follows.there h (h.ne_finish goesOn more) first
  refine ⟨there, ?_⟩
  apply Follows.step (h.now fun here inside => ⟨inside, fun own place => ?_⟩)
    (Level.inside_passes env.options r m.level.ground) first there fun _ => trivial
  exact more ⟨here, own.trans (Level.length_records _), place⟩

theorem Stays.place_le (h : m.Stays r m') (stands : m.Stands place m') :
    r.start ≤ place ∧ place ≤ r.stop := by
  rw [← stands.place]
  apply (h.of_depth stands.outer).place_le
  exact stands.calls.trans (Level.length_records _).symm

theorem evaluates_start (framed : m.level.Framed) (program : m.level.loaded.program = .ofOps r.name r.full)
    (here : m.level.ip = r.start) (begins : r.Has ⟨r.start, 0, 0, false⟩) : m.Evaluates r m where
  within := .running rfl (.here program m.level.at_ground (here ▸ begins))
  still := .running rfl (.here framed rfl rfl)

theorem Evaluates.step (h : m.Evaluates r m') (evaluates : ∀ op ∈ r.ops, op.Evaluates)
    (more : ¬ m.Stands r.stop m') (first : m'.step env = .inl m'') : m.Evaluates r m'' := by
  have goesOn : ∀ op ∈ r.ops, op ≠ .finish := by
    rintro op member rfl
    exact evaluates _ member
  obtain ⟨there, within⟩ := h.within.step goesOn more first
  refine ⟨within, ?_⟩
  apply Follows.step (h.still.now fun here still => ⟨still, fun own op fetched => ?_⟩)
    (Level.still_passes env.options _ _) first there fun _ => trivial
  obtain ⟨program, pt, at_pt, known⟩ :=
    (h.within.of_depth here).exists_point (own.trans (Level.length_records _).symm)
  obtain ⟨⟨source, member, rfl⟩, -⟩ :=
    at_pt.within program known (fun place => more ⟨here, own, place⟩) fetched
  exact (Op.evaluates_resolved _ _).mpr (evaluates source member)

theorem Evaluates.run (h : m.Evaluates r m') (evaluates : ∀ op ∈ r.ops, op.Evaluates)
    (reaches : m'.Reaches env n m'')
    (before : ∀ j < n, ∀ m₁, m'.Reaches env j m₁ → ¬ m.Stands r.stop m₁) : m.Evaluates r m'' := by
  induction reaches with
  | refl => exact h
  | step first _ ih =>
    apply ih (h.step evaluates (before 0 (Nat.succ_pos _) _ (.refl _)) first)
    exact fun j lt m₁ reached => before (j + 1) (Nat.succ_lt_succ lt) m₁ (.step first reached)

/-- Where the evaluation ends the scope is as it was. -/
theorem Evaluates.scope (h : m.Evaluates r m') (stands : m.Stands place m') :
    m'.level.scope = m.level.scope :=
  (h.still.of_depth stands.outer).scope stands.calls

theorem Rounds.not_stands (h : Rounds r items b m i m') (code : LoopCode r m.level.ip var) :
    ¬ m.Stands (r.stop + 1) m' := by
  intro stands
  have start := code.start
  cases h with
  | head stands' =>
    have place := stands'.place.symm.trans stands.place
    simp only [Region.stop] at place
    omega
  | body within =>
    have bound := (within.place_le stands).2
    omega

theorem fetch_head (code : LoopCode r head var) (stands : m.Stands head m')
    (program : m'.level.loaded.program = .ofOps r.name r.full) :
    m'.level.fetch = .ok (.forIter var (r.stop + 1)) := by
  have iterates : CodeAt r.full m'.level.ip [.forIter var (r.stop + 1)] :=
    stands.place.symm ▸ code.iterates
  exact Level.fetch_ofOps program iterates

theorem fetch_stop (code : LoopCode r head var) (stands : m.Stands r.stop m')
    (within : m.Stays r m') : m'.level.fetch = .ok (.jump head) := by
  have again : CodeAt r.full m'.level.ip [.jump head] := stands.place.symm ▸ code.again
  have own := stands.calls.trans (Level.length_records _).symm
  exact Level.fetch_ofOps ((within.of_depth stands.outer).exists_point own).1 again

/-- A loop does not end the template. -/
theorem Rounds.ne_finish (h : Rounds r items b m i m') (code : LoopCode r m.level.ip var)
    (here : m'.outer.length = m.outer.length) : m'.level.fetch ≠ .ok .finish := by
  cases h with
  | head stands program =>
    rw [fetch_head code stands program]
    nofun
  | body within =>
    by_cases stop : m.Stands r.stop m'
    · rw [fetch_stop code stop within]
      nofun
    · exact within.ne_finish code.goesOn stop here

theorem Rounds.depth_le (h : Rounds r items b m i m') : m.outer.length ≤ m'.outer.length := by
  cases h with
  | head stands => exact Nat.le_of_eq stands.outer.symm
  | body within => exact Follows.depth_le within

theorem length_ground_loops {l : Level} (popped : l.scope.pop = .ok b) :
    l.ground.loops.length = b.depth := by
  have more := Scope.depth_pop popped
  rw [Scope.depth] at more
  simp only [Level.ground, Scope.length_loops]
  omega

/-- At its head a loop binds its next item and enters its body, or takes its frame off. -/
theorem step_head (code : LoopCode r m.level.ip var) (popped : m.level.scope.pop = .ok b)
    (stands : m.Stands m.level.ip m') (program : m'.level.loaded.program = .ofOps r.name r.full)
    (here : m'.level.At m.level.ground ⟨m.level.ip, 0, 0, false⟩)
    (looping : b.Looping ⟨items, i⟩ m'.level.scope) (first : m'.step env = .inl m'') :
    (i < items.length ∧ Rounds r items b m (i + 1) m'' ∧ m.Stands (m.level.ip + 1) m'' ∧
        m''.level.Begins var items i) ∨
      (items.length ≤ i ∧ m.Stands (r.stop + 1) m'' ∧ m''.level.scope = b) := by
  obtain ⟨popped', running⟩ := looping.innermost (here.depth.trans (by simp [length_ground_loops popped]))
  obtain ⟨effect, does, goes⟩ := step_does (fetch_head code stands program) first
  cases does with
  | make _ _ makes => cases makes
  | decided _ which | undecided _ _ which => simp at which
  | fail => cases goes
  | @round _ _ iter item after running' next =>
    obtain rfl := Option.some.inj (running'.symm.trans running)
    obtain ⟨found, known, same⟩ := Option.map_eq_some_iff.mp next
    cases same
    cases goes
    have shape : ((m'.level.scope.setIter ⟨items, i + 1⟩).bind var item).shape
        = m'.level.scope.shape := by
      simp [Scope.shape_setIter, running]
    refine .inl ⟨(List.getElem?_eq_some_iff.mp known).1, .body ?_ ?_, ?_, ?_, ?_⟩
    · refine .running stands.outer (.here program ?_ code.begins)
      refine { here with place := ?_, loops := ?_ }
      · rw [code.start, stands.place]
      · exact (Scope.loops_congr ((Scope.shape_bind ..).trans shape)).trans here.loops
    · exact .running stands.outer (.round popped' _ _ _)
    · exact ⟨stands.outer, stands.calls, congrArg (· + 1) stands.place⟩
    · intro other
      rw [known]
      exact Scope.lookup_bind_bind _ _ _ other
    · rw [Scope.lookup_bind_self, Level.loopInfo_eq]
  | endLoop running' ended popped'' =>
    obtain rfl := Option.some.inj (running'.symm.trans running)
    obtain rfl := Except.ok.inj (popped''.symm.trans popped')
    cases goes
    refine .inr ⟨?_, ⟨stands.outer, stands.calls, rfl⟩, rfl⟩
    exact List.getElem?_eq_none_iff.mp (Option.map_eq_none_iff.mp ended)

/-- From the end of its body a loop goes back to its head. -/
theorem step_again (code : LoopCode r m.level.ip var) (stop : m.Stands r.stop m')
    (within : m.Stays r m') (looping : b.Looping ⟨items, i⟩ m'.level.scope)
    (first : m'.step env = .inl m'') : Rounds r items b m i m'' := by
  have own := stop.calls.trans (Level.length_records m.level).symm
  have inside := within.of_depth stop.outer
  have here := inside.ended own stop.place
  rw [code.left] at here
  obtain ⟨effect, does, goes⟩ := step_does (fetch_stop code stop within) first
  cases does with
  | make _ _ makes => cases makes
  | decided _ which | undecided _ _ which => simp at which
  | fail => cases goes
  | jump =>
    cases goes
    exact .head ⟨stop.outer, stop.calls, rfl⟩ (inside.exists_point own).1 { here with place := rfl }
      looping

/-- What a step of a loop leads to: to more of the same round, to the next round, or, if
there is no further item, out of the loop. -/
theorem Rounds.step (code : LoopCode r m.level.ip var) (popped : m.level.scope.pop = .ok b)
    (h : Rounds r items b m i m') (first : m'.step env = .inl m'') :
    (Rounds r items b m i m'' ∧ ¬ m.Enters m.level.ip m' m'') ∨
      (i < items.length ∧ Rounds r items b m (i + 1) m'' ∧ m.Enters m.level.ip m' m'' ∧
        m''.level.Begins var items i) ∨
      (items.length ≤ i ∧ m.Stands (r.stop + 1) m'' ∧ m''.level.scope = b ∧
        ¬ m.Enters m.level.ip m' m'') := by
  have start := code.start
  cases h with
  | head stands program here looping =>
    rcases step_head code popped stands program here looping first with
      ⟨more, next, entered, begins⟩ | ⟨none, ends, scope⟩
    · exact .inr (.inl ⟨more, next, ⟨stands, entered⟩, begins⟩)
    · refine .inr (.inr ⟨none, ends, scope, ?_⟩)
      rintro ⟨-, entered⟩
      have place := entered.place.symm.trans ends.place
      simp only [Region.stop] at place
      omega
  | body within looping =>
    have outside : ¬ m.Enters m.level.ip m' m'' := by
      rintro ⟨before, -⟩
      have bound := (within.place_le before).1
      omega
    refine .inl ⟨?_, outside⟩
    by_cases stop : m.Stands r.stop m'
    · exact step_again code stop within (looping.of_depth stop.outer) first
    · obtain ⟨there, within'⟩ := within.step code.goesOn stop first
      have depth := length_ground_loops popped
      refine .body within' ?_
      apply Follows.step (looping.now fun here same => ⟨same, fun var exit fetched => ?_⟩)
        (Level.looping_passes env.options _ _) first there
      · intro here
        exact depth ▸ (within'.of_depth here).lt_depth
      · apply depth ▸ (within.of_depth here).succ_lt_depth _ fetched
        exact fun own place => stop ⟨here, own.trans (Level.length_records _), place⟩

instance (m : Machine ω) (place : Nat) (m' : Machine ω) : Decidable (m.Stands place m') :=
  decidable_of_iff (m'.outer.length = m.outer.length ∧
    m'.level.calls.length = m.level.calls.length ∧ m'.level.ip = place)
    ⟨fun ⟨outer, calls, place⟩ => ⟨outer, calls, place⟩,
      fun ⟨outer, calls, place⟩ => ⟨outer, calls, place⟩⟩

/-- The machines in which the next steps enter the body behind a head, in the level and
the calls of `m`. -/
def entries (env : Environment ω) (m : Machine ω) (head : Nat) : Nat → Machine ω → List (Machine ω)
  | 0, _ => []
  | n + 1, m' =>
    match m'.step env with
    | .inl m'' => (if m.Enters head m' m'' then [m''] else []) ++ entries env m head n m''
    | .inr _ => []

theorem entries_of_step (m : Machine ω) (head n : Nat) (first : m'.step env = .inl m'') :
    entries env m head (n + 1) m'
      = (if m.Enters head m' m'' then [m''] else []) ++ entries env m head n m'' := by
  simp only [entries, first]

theorem entries_add (m : Machine ω) (head k : Nat) (reaches : m'.Reaches env n m'') :
    entries env m head (n + k) m' = entries env m head n m' ++ entries env m head k m'' := by
  induction reaches with
  | refl => simp [entries]
  | step first _ ih =>
    rw [Nat.add_right_comm, entries_of_step _ _ _ first, entries_of_step _ _ _ first, ih,
      List.append_assoc]

/-- A body that is not come to is not entered. -/
theorem entries_eq_nil (reaches : m'.Reaches env n m'')
    (never : ∀ j < n, ∀ m₁, m'.Reaches env j m₁ → ¬ m.Stands head m₁) :
    entries env m head n m' = [] := by
  induction reaches with
  | refl => rfl
  | step first _ ih =>
    have none := never 0 (Nat.succ_pos _) _ (.refl _)
    rw [entries_of_step _ _ _ first, if_neg fun entered => none entered.1, List.nil_append]
    exact ih fun j lt m₁ reached => never (j + 1) (Nat.succ_lt_succ lt) m₁ (.step first reached)

/-- What a loop has done by the time that it is left, or as long as it is not. -/
theorem Rounds.run (code : LoopCode r m.level.ip var) (popped : m.level.scope.pop = .ok b)
    (h : Rounds r items b m i m') (le : i ≤ items.length) (reaches : m'.Reaches env n m'')
    (before : ∀ j < n, ∀ m₁, m'.Reaches env j m₁ → ¬ m.Stands (r.stop + 1) m₁) :
    (∀ p (m₁ : Machine ω), (entries env m m.level.ip n m')[p]? = some m₁ →
        m₁.level.Begins var items (i + p)) ∧
      (Rounds r items b m (i + (entries env m m.level.ip n m').length) m'' ∧
          i + (entries env m m.level.ip n m').length ≤ items.length ∨
        m.Stands (r.stop + 1) m'' ∧ m''.level.scope = b ∧
          i + (entries env m m.level.ip n m').length = items.length) := by
  induction reaches generalizing i with
  | refl => exact ⟨nofun, .inl ⟨h, le⟩⟩
  | @step n m' m₁ m'' first later ih =>
    have before' : ∀ j < n, ∀ m₂, m₁.Reaches env j m₂ → ¬ m.Stands (r.stop + 1) m₂ :=
      fun j lt m₂ reached => before (j + 1) (Nat.succ_lt_succ lt) m₂ (.step first reached)
    rw [entries_of_step _ _ _ first]
    rcases h.step code popped first with
      ⟨same, outside⟩ | ⟨more, next, entered, begins⟩ | ⟨none, ends, scope, outside⟩
    · rw [if_neg outside, List.nil_append]
      exact ih same le before'
    · obtain ⟨later, last⟩ := ih next more before'
      rw [if_pos entered]
      constructor
      · intro p m₂ known
        cases p with
        | zero =>
          cases known
          exact begins
        | succ p => exact Nat.add_right_comm i 1 p ▸ later p m₂ known
      · simpa [Nat.add_assoc, Nat.add_comm 1] using last
    · rw [if_neg outside, List.nil_append]
      cases later with
      | refl => exact ⟨nofun, .inr ⟨ends, scope, Nat.le_antisymm le none⟩⟩
      | step => exact absurd ends (before 1 (by omega) m₁ (.single first))

end Machine
end TemplateEngine
