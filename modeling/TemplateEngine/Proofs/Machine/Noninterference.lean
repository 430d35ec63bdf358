import TemplateEngine.Proofs.Machine.Discipline
import TemplateEngine.Proofs.Machine.SideBySide

/-!
# Macros do not see who calls them

What a call does depends on its arguments and on the frames that can be reached from them
and from the macro, but not on other frames, such as those of the loops around the call.
From two states that agree on these, a macro of compiled code returns the same text, or
fails in the same way at the same instruction, or does not return. Compiled code keeps to
what the call has put on top, so at each step the two machines do the same.
-/

namespace TemplateEngine

namespace Ground

variable {full : List SourceOp} {ground g : Ground}

theorem Above.grows (h : ground.Above full g) : ground.height ≤ g.height ∧
    ground.loops.length ≤ g.loops.length ∧ (ground.inMacro = true → g.inMacro = true) := by
  induction h with
  | refl => exact ⟨Nat.le_refl _, Nat.le_refl _, id⟩
  | call _ _ _ ih =>
    obtain ⟨height, loops, -⟩ := ih
    refine ⟨Nat.le_trans height (Nat.le_add_right _ _), Nat.le_trans loops ?_, fun _ => rfl⟩
    simp only [Ground.call, List.length_append]
    omega

/-- The ground of a call that has a level below it. -/
structure Covers (ground : Ground) (b : Level) : Prop where
  height : ground.height = b.stack.length
  loops : ground.loops.length = b.scope.depth
  records : ground.records.length = b.calls.length + 1
  inMacro : ground.inMacro = true

end Ground

namespace Interior

variable {full : List SourceOp} {name : String} {ground : Ground} {b : Level} {p : Interior}
  {op : Program.Resolved}

/-- Compiled code keeps to what the call has put on top of its level. -/
theorem fits (covers : ground.Covers b) (balanced : (p.on b).Balanced name full ground)
    (fetched : (p.on b).fetch = .ok op) :
    p.frames ≠ [] ∧ op.operands ≤ p.stack.length ∧ op ≠ .finish := by
  obtain ⟨program, g, pt, above, here, safe⟩ := balanced
  obtain ⟨allows, -⟩ := here.fetched program safe fetched
  obtain ⟨height, loops, inMacro⟩ := above.grows
  refine ⟨?_, ?_, ?_⟩
  · rintro none
    have depth := here.depth
    have same : (p.on b).scope.depth = b.scope.depth := by
      simp [on, none, Scope.topped, Scope.depth]
    rw [same, ← covers.loops] at depth
    omega
  · have enough := allows.enough
    have size := here.height
    simp only [on, List.length_append, ← covers.height] at size
    omega
  · rintro rfl
    obtain ⟨-, -, outside⟩ := allows
    have inside := inMacro covers.inMacro
    rw [← here.inMacro, outside] at inside
    cases inside

/-- A call that returns has used up its part of the stack. -/
theorem stack_eq_nil (covers : ground.Covers b) (balanced : (p.on b).Balanced name full ground)
    (leaves : (p.on b).fetch = .ok .macroReturn) (last : p.calls.length = 1) : p.stack = [] := by
  obtain ⟨program, g, pt, above, here, safe⟩ := balanced
  obtain ⟨⟨empty, -⟩, -⟩ := here.fetched program safe leaves
  obtain rfl : g = ground := by
    rcases above.eq_or_more with same | more
    · exact same
    · have size := congrArg List.length here.records
      simp only [Level.length_records, on, List.length_append, last] at size
      rw [covers.records] at more
      omega
  have size := here.height
  simp only [on, List.length_append, covers.height, empty] at size
  exact List.length_eq_zero_iff.mp (by omega)

end Interior

namespace Level

/-- The level without the callee of a call and its arguments. -/
def below (l : Level) (count : Nat) : Level := { l with stack := l.stack.drop (count + 1) }

/-- The frames that a call with these values comes to: those within reach and all that
are pushed. -/
def within (l : Level) (values : List Value) (i : Nat) : Prop :=
  l.scope.InReach l.loaded.id values i ∨ l.scope.inner.length < i

theorem on_below {l : Level} {args : List Value} {callee : Value}
    (taken : args ++ [callee] <+: l.stack) :
    Interior.on ⟨l.ip, [], args ++ [callee], []⟩ (l.below args.length) = l := by
  obtain ⟨rest, eq⟩ := taken
  have below_eq : l.stack.drop (args.length + 1) = rest := by
    rw [← eq]
    exact List.drop_left' (by simp)
  simp only [Interior.on, below, below_eq, Scope.topped, eq, List.nil_append]

/-- The ground of a macro that is called at the level. -/
def callGround (l : Level) (count : Nat) : Ground :=
  Ground.call ⟨(l.below count).stack.length, l.scope.loops, l.records, false⟩
    (Point.behind ⟨l.ip, count + 1, 0, false⟩ count)

theorem covers_callGround (l : Level) (count : Nat) :
    (l.callGround count).Covers (l.below count) := by
  constructor <;> simp [callGround, Ground.call, Point.behind, below, Scope.depth]

end Level

namespace Machine

variable {ω : Type}

/-- Two machines are about to make the same call, with the same around them and with the
same in all frames that the macro and its arguments lead to. -/
structure CallsAlike (m m' : Machine ω) (callee : Value) (args : List Value) : Prop where
  call : m.level.fetch = .ok (.macroCall args.length)
  loaded : m'.level.loaded = m.level.loaded
  ip : m'.level.ip = m.level.ip
  stack : args ++ [callee] <+: m.level.stack
  stack' : args ++ [callee] <+: m'.level.stack
  depth : m'.level.depth = m.level.depth
  includeDepth : m'.outer.length = m.outer.length
  frames : m'.level.scope.depth = m.level.scope.depth
  steps : m'.steps = m.steps
  surroundings : m'.surroundings = m.surroundings
  agree : ∀ i, m.level.scope.InReach m.level.loaded.id (callee :: args) i →
    m'.level.scope.frame? i = m.level.scope.frame? i

/-- A number of steps after the first one of the call at `m`, which is still in progress. -/
inductive Inside (env : Environment ω) (m : Machine ω) : Nat → Machine ω → Prop
  | enter {x} : m.step env = .inl x → x.Calling m.outer.length m.level.calls.length →
      Inside env m 0 x
  | step {n x y} : Inside env m n x → x.step env = .inl y →
      y.Calling m.outer.length m.level.calls.length → Inside env m (n + 1) y

/-- The machines are at the same instruction of the call at a level with `k` around it, or
of a template that it includes; the levels of such templates are the same. -/
structure Matches (k : Nat) (x x' : Machine ω) : Prop where
  loaded : x'.level.loaded = x.level.loaded
  ip : x'.level.ip = x.level.ip
  steps : x'.steps = x.steps
  surroundings : x'.surroundings = x.surroundings
  outer : x'.outer.length = x.outer.length
  level : k < x.outer.length → x'.level = x.level
  included : ∀ i, i + k + 1 < x.outer.length → x'.outer[i]? = x.outer[i]?

/-- How the calls at `m` and `m'`, with a number of arguments, go on in both machines. -/
inductive SameFate (env env' : Environment ω) (m m' : Machine ω) (count : Nat) : Prop
  | returns {n r r' q q'} (text : String) : Inside env m n r → Inside env' m' n r' →
      m.ReturnsAt env r → m'.ReturnsAt env' r' →
      r.step env = .inl q → r'.step env' = .inl q' →
      q.level.stack = .raw text :: m.level.stack.drop (count + 1) →
      q'.level.stack = .raw text :: m'.level.stack.drop (count + 1) →
      SameFate env env' m m' count
  | fails {f f' o o'} (e : RuntimeError) :
      (f = m ∧ f' = m') ∨ (∃ n, Inside env m n f ∧ Inside env' m' n f') →
      f.Matches m.outer.length f' → f.step env = .inr o → f'.step env' = .inr o' →
      o.error = some (m.outer.foldl (fun e w => e.around w.name) e) →
      o'.error = some (m'.outer.foldl (fun e w => e.around w.name) e) →
      SameFate env env' m m' count
  | runsOn : (∀ n, ∃ x x', Inside env m n x ∧ Inside env' m' n x') → SameFate env env' m m' count

variable {env env' : Environment ω} {m m' x x' : Machine ω} {n : Nat}

theorem Inside.through (h : Inside env m n x) : ∃ m₁, m.step env = .inl m₁ ∧
    m₁.Through env (Calling m.outer.length m.level.calls.length) x := by
  induction h with
  | enter first here => exact ⟨_, first, .refl here⟩
  | step _ next here ih =>
    obtain ⟨m₁, first, through⟩ := ih
    exact ⟨m₁, first, through.snoc next here⟩

/-- A call that is not in progress for ever does not begin or has a last instruction. -/
theorem Inside.exists_last (ends : ¬ ∀ n, ∃ x, Inside env m n x) :
    (∀ x, ¬ Inside env m 0 x) ∨ ∃ n x, Inside env m n x ∧ ∀ y, ¬ Inside env m (n + 1) y := by
  by_contra lasts
  simp only [not_or, not_forall, not_not, not_exists, not_and] at lasts
  obtain ⟨begins, goes_on⟩ := lasts
  refine ends fun n => ?_
  induction n with
  | zero => exact begins
  | succ n ih =>
    obtain ⟨x, inside⟩ := ih
    exact goes_on n x inside

/-- The call returns after these steps. -/
theorem Inside.returnsAt {count : Nat} (h : Inside env m n x)
    (call : m.level.fetch = .ok (.macroCall count))
    (last : x.Leaving m.outer.length m.level.calls.length) : m.ReturnsAt env x :=
  ⟨⟨count, call⟩, h.through, last.outer, last.calls, last.leaves⟩

section

variable {K : Nat → Prop} {b b' : Level} {around around' : List Waiting} {full : List SourceOp}
  {name : String} {ground : Ground}

theorem Twin.matches (twin : Twin K b b' around around' x x') (agree : b.AgreeIn K b')
    (depth : around'.length = around.length) : x.Matches around.length x' := by
  cases twin with
  | running =>
    refine ⟨agree.loaded, rfl, rfl, rfl, depth, fun more => absurd more (Nat.lt_irrefl _), ?_⟩
    intro i more
    have more : i + around.length + 1 < around.length := more
    omega
  | included inner =>
    refine ⟨rfl, rfl, rfl, rfl, by simp [depth], fun _ => rfl, ?_⟩
    intro i more
    have here : i < inner.length := by
      simp only [List.length_append, List.length_cons] at more
      omega
    rw [List.getElem?_append_left here, List.getElem?_append_left here]

/-- The machines are in the call, which is at a safe point of compiled code. -/
structure InCall (K : Nat → Prop) (b b' : Level) (around around' : List Waiting)
    (full : List SourceOp) (name : String) (ground : Ground) (x x' : Machine ω) : Prop where
  twin : Twin K b b' around around' x x'
  balanced : x.Follows around.length (Level.Balanced name full ground)
    (fun l => l.advance.Balanced name full ground)

section

variable (options : env'.options = env.options) (source : env'.source = env.source)
  (depth : around'.length = around.length) (agree : b.AgreeIn K b') (covers : ground.Covers b)
  (h : InCall K b b' around around' full name ground x x')
include options source depth agree covers h

theorem InCall.abreast : Abreast K b b' around around' (x.step env) (x'.step env') := by
  apply h.twin.step options source depth agree
  intro p op level outer fetched
  have balanced := h.balanced.of_depth (congrArg List.length outer)
  rw [level] at balanced fetched
  exact Interior.fits covers balanced fetched

/-- A step within the call is made by both machines. -/
theorem InCall.next {y : Machine ω} (coded : WellCoded full) (first : x.step env = .inl y)
    (inside : y.Calling around.length b.calls.length) :
    ∃ y', x'.step env' = .inl y' ∧ InCall K b b' around around' full name ground y y' := by
  have abreast := h.abreast options source depth agree covers
  -- As long as the call is in progress, so is all that was when its macro was entered.
  have law : LevelLaw env.options (fun l => b.calls.length < l.calls.length)
      (Level.Balanced name full ground) (fun l => l.advance.Balanced name full ground) :=
    Level.balanced_law coded env.options fun l more => covers.records ▸ Nat.succ_le_of_lt more
  have balanced := h.balanced.step law first inside.depth_le inside.of_depth
  rw [first] at abreast
  obtain ⟨y', first', twin⟩ := abreast.exists_twin inside
  exact ⟨y', first', twin, balanced⟩

/-- If a step leaves the call, both machines return the same text. -/
theorem InCall.returns {y : Machine ω} (first : x.step env = .inl y)
    (outside : ¬ y.Calling around.length b.calls.length) :
    ∃ (y' : Machine ω) (text : String), x'.step env' = .inl y' ∧
      x.Leaving around.length b.calls.length ∧ x'.Leaving around'.length b'.calls.length ∧
      y.level.stack = .raw text :: b.stack ∧ y'.level.stack = .raw text :: b'.stack := by
  have abreast := h.abreast options source depth agree covers
  rw [first] at abreast
  obtain ⟨there, y', first'⟩ := abreast.exists_next
  have leaving := calling_exit h.twin.calling.1 first there outside
  have balanced := h.balanced.of_depth leaving.outer
  obtain ⟨here, last, leaves⟩ := id leaving
  obtain ⟨twin, -⟩ := h
  cases twin with
  | included inner =>
    simp only [List.length_append, List.length_cons] at here
    omega
  | @running p _ _ _ _ closed calling =>
    obtain ⟨c, rest, calls⟩ := List.exists_cons_of_ne_nil calling
    have single : p.calls.length = 1 := by
      simp only [Interior.on, List.length_append] at last
      omega
    have empty : p.stack = [] := Interior.stack_eq_nil covers balanced leaves single
    have leaves' : (p.on b').fetch = .ok .macroReturn := by
      rw [← leaves]
      simp only [Level.fetch, Interior.on, agree.loaded]
    have last' : (p.on b').calls.length = b'.calls.length + 1 := by
      simp only [Interior.on, List.length_append, single]
      omega
    refine ⟨y', String.join c.captured.reverse, first', leaving,
      ⟨rfl, last', leaves'⟩, ?_, ?_⟩
    · obtain ⟨c', _, head, rfl⟩ := step_return leaves first
      simp only [Interior.on, calls, List.cons_append, List.cons.injEq] at head
      obtain ⟨rfl, -⟩ := head
      simp only [Interior.on, empty, List.nil_append]
    · obtain ⟨c', _, head, rfl⟩ := step_return leaves' first'
      simp only [Interior.on, calls, List.cons_append, List.cons.injEq] at head
      obtain ⟨rfl, -⟩ := head
      simp only [Interior.on, empty, List.nil_append]

end

end

section

variable {callee : Value} {args : List Value}

/-- The operands of a call lead to frames within reach. -/
theorem closed_operands (l : Level) : Interior.Closed l.loaded.id (l.within (callee :: args))
    l.scope.depth ⟨l.ip, [], args ++ [callee], []⟩ := by
  refine ⟨?_, nofun, nofun, nofun⟩
  intro value member leaf among
  cases leaf with
  | macroRef ref =>
    have operand : value ∈ callee :: args := by
      simpa [or_comm] using member
    exact fun own => .inl (.held operand among own)
  | _ => trivial

variable (alike : CallsAlike m m' callee args)
include alike

/-- The levels below the operands of the call agree on the frames within reach. -/
theorem CallsAlike.agreeIn : (m.level.below args.length).AgreeIn
    (m.level.within (callee :: args)) (m'.level.below args.length) where
  loaded := alike.loaded
  depth := alike.depth
  scope := Scope.agreeIn_inReach alike.frames alike.agree

theorem CallsAlike.matches : m.Matches m.outer.length m' where
  loaded := alike.loaded
  ip := alike.ip
  steps := alike.steps
  surroundings := alike.surroundings
  outer := alike.includeDepth
  level more := absurd more (Nat.lt_irrefl _)
  included i more := absurd (Nat.lt_of_succ_lt more) (Nat.not_lt_of_le (Nat.le_add_left _ i))

theorem CallsAlike.twin (options : ExecutionOptions) :
    Effect.Twin (m.level.within (callee :: args)) (m.level.below args.length)
      (m'.level.below args.length) (m.level.execute options (.macroCall args.length))
      (m'.level.execute options (.macroCall args.length)) := by
  have enough : args.length + 1 ≤ (args ++ [callee]).length := by simp
  have level' := Level.on_below alike.stack'
  rw [alike.ip] at level'
  have operands : Effect.Twin _ _ _
      (Level.execute options (Interior.on ⟨m.level.ip, [], args ++ [callee], []⟩ _) _)
      (Level.execute options (Interior.on _ _) _) :=
    Interior.macroCall_twin alike.agreeIn (closed_operands m.level) enough
  rwa [Level.on_below alike.stack, level'] at operands

theorem CallsAlike.call' : m'.level.fetch = .ok (.macroCall args.length) := by
  rw [← alike.call]
  simp only [Level.fetch, alike.loaded, alike.ip]

/-- Both machines do the same with the call. -/
theorem CallsAlike.abreast (options : env'.options = env.options)
    (source : env'.source = env.source) :
    Abreast (m.level.within (callee :: args)) (m.level.below args.length)
      (m'.level.below args.length) m.outer m'.outer (m.step env) (m'.step env') := by
  unfold Machine.step
  rw [options, alike.steps, alike.surroundings]
  dsimp only
  rw [alike.call, alike.call']
  split
  · exact .failed _ rfl rfl
  · exact perform_running options source alike.includeDepth alike.agreeIn (alike.twin env.options)

variable {name : String} {full : List SourceOp} (options : env'.options = env.options)
  (source : env'.source = env.source) (program : m.level.loaded.program = .ofOps name full)
  (coded : WellCoded full)
include options source program coded

/-- If a machine enters the macro, both do. -/
theorem CallsAlike.enters {x : Machine ω} (first : m.step env = .inl x) :
    ∃ x', m'.step env' = .inl x' ∧ InCall (m.level.within (callee :: args))
      (m.level.below args.length) (m'.level.below args.length) m.outer m'.outer full name
      (m.level.callGround args.length) x x' := by
  have abreast := alike.abreast options source
  obtain ⟨taken, ref, stack, target, scope, eq, size, -, found, pushed, rfl⟩ :=
    step_call alike.call first
  rw [first] at abreast
  obtain ⟨x', first', twin⟩ := abreast.exists_twin (.running rfl (Nat.lt_succ_self _))
  refine ⟨x', first', twin, .running rfl ?_⟩
  have here : m.level.At
      ⟨(m.level.below args.length).stack.length, m.level.scope.loops, m.level.records, false⟩
      ⟨m.level.ip, args.length + 1, 0, false⟩ := by
    refine ⟨rfl, ?_, by simp, rfl, rfl⟩
    simp only [Level.below, eq, List.length_drop, List.length_append, List.length_cons, size]
    omega
  rw [program] at found
  obtain ⟨op, member, defines⟩ := Program.exists_of_macroAt found
  exact ⟨program, _, _, .refl, here.enterMacro _ eq size (Nat.le_refl _) pushed,
    coded.entry op member _ defines⟩

/-- What one machine does in the call the other does too. -/
theorem CallsAlike.follows (h : Inside env m n x) : ∃ x', Inside env' m' n x' ∧
    InCall (m.level.within (callee :: args)) (m.level.below args.length)
      (m'.level.below args.length) m.outer m'.outer full name
      (m.level.callGround args.length) x x' := by
  induction h with
  | enter first _ =>
    obtain ⟨x', first', inCall⟩ := alike.enters options source program coded first
    exact ⟨x', .enter first' inCall.twin.calling.2, inCall⟩
  | step _ first inside ih =>
    obtain ⟨x', inside', inCall⟩ := ih
    obtain ⟨y', first', inCall'⟩ := inCall.next options source alike.includeDepth alike.agreeIn
      (Level.covers_callGround _ _) coded first inside
    exact ⟨y', .step inside' first' inCall'.twin.calling.2, inCall'⟩

/-- The last instruction of the call does the same in both machines. -/
theorem CallsAlike.sameFate_of_last (inside : Inside env m n x)
    (last : ∀ y, ¬ Inside env m (n + 1) y) : SameFate env env' m m' args.length := by
  obtain ⟨x', inside', inCall⟩ := alike.follows options source program coded inside
  have covers := Level.covers_callGround m.level args.length
  cases first : x.step env with
  | inl y =>
    have outside := fun calling => last y (.step inside first calling)
    obtain ⟨y', text, first', leaving, leaving', stack, stack'⟩ :=
      inCall.returns options source alike.includeDepth alike.agreeIn covers first outside
    exact .returns text inside inside' (inside.returnsAt alike.call leaving)
      (inside'.returnsAt alike.call' leaving') first first' stack stack'
  | inr o =>
    have abreast := inCall.abreast options source alike.includeDepth alike.agreeIn covers
    rw [first] at abreast
    obtain ⟨o', e, first', error, error'⟩ := abreast.exists_error
    exact .fails e (.inr ⟨n, inside, inside'⟩)
      (inCall.twin.matches alike.agreeIn alike.includeDepth) first first' error error'

/-- A call that does not enter the macro fails in both machines. -/
theorem CallsAlike.sameFate_of_refused (refused : ∀ x, ¬ Inside env m 0 x) :
    SameFate env env' m m' args.length := by
  have abreast := alike.abreast options source
  cases first : m.step env with
  | inl x =>
    obtain ⟨x', -, inCall⟩ := alike.enters options source program coded first
    exact absurd (.enter first inCall.twin.calling.1) (refused x)
  | inr o =>
    rw [first] at abreast
    obtain ⟨o', e, first', error, error'⟩ := abreast.exists_error
    exact .fails e (.inl ⟨rfl, rfl⟩) alike.matches first first' error error'

end

/-- Two machines that make the same call, with the same in all frames that the macro and
its arguments lead to, take the same steps in it, also in templates that it includes. Both
return the same text, both fail at the same instruction for the same reason, or neither
returns. -/
theorem macro_call_noninterference {callee : Value} {args : List Value}
    (options : env'.options = env.options) (source : env'.source = env.source)
    (compiled : m.level.loaded.program.IsCompiled) (alike : CallsAlike m m' callee args) :
    (∀ n x, Inside env m n x → ∃ x', Inside env' m' n x' ∧ x.Matches m.outer.length x') ∧
    SameFate env env' m m' args.length := by
  obtain ⟨t, compileOptions, text, compiles⟩ := compiled
  obtain ⟨full, program, coded⟩ := t.wellCoded_of_compile compiles
  have follows {n x} (inside : Inside env m n x) :=
    alike.follows options source program coded inside
  refine ⟨?_, ?_⟩
  · intro n x inside
    obtain ⟨x', inside', inCall⟩ := follows inside
    exact ⟨x', inside', inCall.twin.matches alike.agreeIn alike.includeDepth⟩
  -- No number of steps decides which of the cases it is.
  by_cases goes_on : ∀ n, ∃ x, Inside env m n x
  · refine .runsOn fun n => ?_
    obtain ⟨x, inside⟩ := goes_on n
    obtain ⟨x', inside', -⟩ := follows inside
    exact ⟨x, x', inside, inside'⟩
  rcases Inside.exists_last goes_on with refused | ⟨n, x, inside, last⟩
  · exact alike.sameFate_of_refused options source program coded refused
  · exact alike.sameFate_of_last options source program coded inside last

end Machine

namespace Cells

/-- In each round of a loop, a call of a macro that includes a template. -/
def page : Template where
  name := "page"
  body := [
    .define "cell" [("text", ⟨12, 16⟩)]
      [.print (.var "text"), .inclusion (.literal (.str "foot")) []],
    .foreach "item" (.list [.literal (.int 1), .literal (.int 2)])
      [.print (.call (.var "cell") [.literal (.str "a")])]]

def pageProgram : Loaded where
  id := 0
  program := {
    name := "page"
    constants := #[.str "foot", .int 1, .int 2, .str "a"]
    names := #["cell", "text", "item"]
    macros := #[⟨"cell", ["text"], 3⟩]
    instructions := #[.makeMacro 0, .storeVar 0, .jump 9, .loadVar 1, .print .html, .constLoad 0,
      .makeMap 0, .inclusion, .macroReturn, .constLoad 1, .constLoad 2, .makeList 2, .forStart,
      .forIter 2 19, .loadVar 0, .constLoad 3, .macroCall 1, .print .html, .jump 13, .finish] }

def cell : Value := .macroRef ⟨0, 0, "cell", 0⟩

/-- At the call, in a round of the loop. -/
def atCall (round : Nat) : Machine Unit where
  level := {
    loaded := pageProgram
    ip := 16
    scope := {
      inner := [{
        vars := [("item", .ofNat (round + 1)), ("loop", Level.loopInfo round 2)]
        parent := some 0
        iter := some ⟨[.int 1, .int 2], round + 1⟩ }]
      root := ⟨[("cell", cell)], none, none⟩ }
    stack := [.str "a", cell]
    calls := []
    written := 0
    outerDepth := 0 }
  outer := []
  steps := 10
  accepted := []
  surroundings := ()

theorem closure_eq_zero {ref : MacroRef} (among : .macroRef ref ∈ cell.leaves) :
    ref.closure = 0 := by
  obtain rfl : ref = ⟨0, 0, "cell", 0⟩ := by simpa [cell, Value.leaves] using among
  rfl

/-- Neither the loop nor its variables are within reach. -/
theorem eq_zero_of_inReach {i : Nat}
    (h : (atCall 0).level.scope.InReach 0 [cell, .str "a"] i) : i = 0 := by
  induction h with
  | held member among _ =>
    rcases List.mem_pair.mp member with rfl | rfl
    · exact closure_eq_zero among
    · simp [Value.leaves] at among
  | parent _ found up ih =>
    subst ih
    obtain rfl := Option.some.inj found
    cases up
  | bound _ found bound among _ ih =>
    subst ih
    obtain rfl := Option.some.inj found
    obtain rfl := List.mem_singleton.mp bound
    exact closure_eq_zero among

theorem macro_call_noninterference_rounds :
    (Machine.start pageProgram [] ()).Reaches Table.environment 10 (atCall 0) ∧
      (atCall 0).level.scope.lookup "item" = some (.ofNat 1) ∧
      (atCall 1).level.scope.lookup "item" = some (.ofNat 2) ∧
      (∀ n x, Machine.Inside Table.environment (atCall 0) n x →
        ∃ x', Machine.Inside Table.environment (atCall 1) n x' ∧ x.Matches 0 x') ∧
      Machine.SameFate Table.environment Table.environment (atCall 0) (atCall 1) 1 := by
  have compiles : pageProgram.program.IsCompiled := ⟨page, ⟨true⟩, "", rfl⟩
  have alike : (atCall 0).CallsAlike (atCall 1) cell [.str "a"] := by
    refine ⟨rfl, rfl, rfl, List.prefix_rfl, List.prefix_rfl, rfl, rfl, rfl, rfl, rfl, ?_⟩
    intro i reach
    rw [eq_zero_of_inReach reach]
    rfl
  refine ⟨?_, rfl, rfl, Machine.macro_call_noninterference rfl rfl compiles alike⟩
  -- The steps from the start to the call in the first round.
  repeat' refine Machine.Reaches.step rfl ?_
  exact .refl _

end Cells
end TemplateEngine
