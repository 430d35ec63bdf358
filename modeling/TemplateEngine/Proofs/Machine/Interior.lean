import TemplateEngine.Proofs.Machine.Defects
import TemplateEngine.Proofs.Scope.Reach

/-!
# What a macro call does at its level

During a call a level consists of what was there before and of what the call has put on
top: frames, values and further calls. An operation that finds its operands among the
latter does the same on top of any two levels that agree on the frames within reach, and
again what it leaves leads to no other frames.
-/

namespace TemplateEngine

/-- What a call has put on top of a level, and the instruction that it is at. -/
structure Interior where
  ip : Nat
  /-- Innermost first, as are the calls. -/
  frames : List Frame
  stack : List Value
  calls : List Call

/-- Levels of one program, equally deep, that agree on these frames. -/
structure Level.AgreeIn (K : Nat → Prop) (b b' : Level) : Prop where
  loaded : b'.loaded = b.loaded
  depth : b'.depth = b.depth
  scope : b.scope.AgreeIn b.loaded.id K b'.scope

namespace Interior

def on (p : Interior) (b : Level) : Level := { b with
  ip := p.ip
  scope := b.scope.topped p.frames
  stack := p.stack ++ b.stack
  calls := p.calls ++ b.calls }

/-- It leads to no other frames and will leave the ones below it. -/
structure Closed (id : Nat) (K : Nat → Prop) (depth : Nat) (p : Interior) : Prop where
  stack : ∀ value ∈ p.stack, value.All (Value.ClosedIn id K)
  frames : ∀ f ∈ p.frames, f.Inside id K
  items : ∀ f ∈ p.frames, ∀ iter, f.iter = some iter →
    ∀ item ∈ iter.items, item.All (Value.ClosedIn id K)
  calls : ∀ c ∈ p.calls, depth ≤ c.scopeDepth

end Interior

/-- The same effect on top of two levels. -/
inductive Effect.Twin (K : Nat → Prop) (b b' : Level) : Effect → Effect → Prop
  | next {p : Interior} : p.Closed b.loaded.id K b.scope.depth →
      Effect.Twin K b b' (.next (p.on b)) (.next (p.on b'))
  | write {p : Interior} (text) : p.Closed b.loaded.id K b.scope.depth → p.calls ≠ [] →
      Effect.Twin K b b' (.write text (p.on b)) (.write text (p.on b'))
  | enter {p : Interior} (name args) : p.Closed b.loaded.id K b.scope.depth → p.frames ≠ [] →
      p.calls ≠ [] →
      Effect.Twin K b b' (.enter name args (p.on b)) (.enter name args (p.on b'))
  | fail (e l l') : Effect.Twin K b b' (.fail e l) (.fail e l')

variable {K : Nat → Prop} {b b' : Level} {p : Interior} {value : Value} {stack : List Value}
  {options : ExecutionOptions}

namespace Interior

theorem Closed.withStack {id depth : Nat} (h : p.Closed id K depth)
    (values : ∀ value ∈ stack, value.All (Value.ClosedIn id K)) (ip : Nat) :
    Closed id K depth { p with ip := ip, stack := stack } :=
  ⟨values, h.frames, h.items, h.calls⟩

theorem pop1_on (taken : p.stack = value :: stack) (rest : Value → Level → Effect) :
    (p.on b).pop1 rest = rest value (on { p with stack := stack } b) := by
  simp only [Level.pop1, on, taken, List.cons_append]

theorem popMany_on {items : List Value} (taken : p.stack = items ++ stack)
    (rest : List Value → Level → Effect) :
    (p.on b).popMany items.length rest = rest items.reverse (on { p with stack := stack } b) := by
  have enough : ¬ (p.on b).stack.length < items.length := by
    simp [on, taken]
  rw [Level.popMany, if_neg enough]
  simp only [on, taken, List.append_assoc, List.take_left, List.drop_left]

theorem exists_taken {n : Nat} (enough : n ≤ p.stack.length) :
    ∃ items stack, p.stack = items ++ stack ∧ items.length = n :=
  ⟨p.stack.take n, p.stack.drop n, (List.take_append_drop n _).symm, List.length_take_of_le enough⟩

section

variable (closed : p.Closed b.loaded.id K b.scope.depth)
include closed

theorem yield_twin (known : value.All (Value.ClosedIn b.loaded.id K)) :
    Effect.Twin K b b' ((p.on b).yield value) ((p.on b').yield value) :=
  .next (closed.withStack (List.forall_mem_cons.mpr ⟨known, closed.stack⟩) (p.ip + 1))

theorem finishWith_twin {result : Except TypeFault Value}
    (known : ∀ value, result = .ok value → value.All (Value.ClosedIn b.loaded.id K)) :
    Effect.Twin K b b' ((p.on b).finishWith result) ((p.on b').finishWith result) := by
  cases result with
  | error fault => exact .fail _ _ _
  | ok value => exact yield_twin closed (known value rfl)

theorem pop1_twin (enough : 1 ≤ p.stack.length) {rest rest' : Value → Level → Effect}
    (twin : ∀ {value stack}, p.stack = value :: stack → value.All (Value.ClosedIn b.loaded.id K) →
      Closed b.loaded.id K b.scope.depth { p with stack := stack } →
      Effect.Twin K b b' (rest value (on { p with stack := stack } b))
        (rest' value (on { p with stack := stack } b'))) :
    Effect.Twin K b b' ((p.on b).pop1 rest) ((p.on b').pop1 rest') := by
  obtain ⟨value, stack, taken⟩ := List.exists_cons_of_length_pos enough
  have values := closed.stack
  rw [taken] at values
  obtain ⟨known, others⟩ := List.forall_mem_cons.mp values
  rw [pop1_on taken, pop1_on taken]
  exact twin taken known (closed.withStack others p.ip)

theorem pop2_twin (enough : 2 ≤ p.stack.length) {rest rest' : Value → Value → Level → Effect}
    (twin : ∀ {first second stack}, first.All (Value.ClosedIn b.loaded.id K) →
      second.All (Value.ClosedIn b.loaded.id K) →
      Closed b.loaded.id K b.scope.depth { p with stack := stack } →
      Effect.Twin K b b' (rest first second (on { p with stack := stack } b))
        (rest' first second (on { p with stack := stack } b'))) :
    Effect.Twin K b b' ((p.on b).pop2 rest) ((p.on b').pop2 rest') := by
  refine pop1_twin closed (Nat.le_of_succ_le enough) fun {second} {stack} taken known below => ?_
  rw [taken, List.length_cons] at enough
  refine pop1_twin below (Nat.le_of_succ_le_succ enough) fun _ known' beneath => ?_
  exact twin known' known beneath

theorem popMany_twin {count : Nat} (enough : count ≤ p.stack.length)
    {rest rest' : List Value → Level → Effect}
    (twin : ∀ {items stack}, items.length = count → p.stack = items.reverse ++ stack →
      (∀ item ∈ items, item.All (Value.ClosedIn b.loaded.id K)) →
      Closed b.loaded.id K b.scope.depth { p with stack := stack } →
      Effect.Twin K b b' (rest items (on { p with stack := stack } b))
        (rest' items (on { p with stack := stack } b'))) :
    Effect.Twin K b b' ((p.on b).popMany count rest) ((p.on b').popMany count rest') := by
  obtain ⟨items, stack, taken, rfl⟩ := exists_taken enough
  have values := closed.stack
  rw [taken] at values
  obtain ⟨known, others⟩ := List.forall_mem_append.mp values
  rw [popMany_on taken, popMany_on taken]
  refine twin List.length_reverse (by rw [List.reverse_reverse, taken]) ?_
    (closed.withStack others p.ip)
  exact fun item member => known item (List.mem_reverse.mp member)

theorem jumpOrPop_twin (enough : 1 ≤ p.stack.length) (test : Value → Bool) (target : Nat) :
    Effect.Twin K b b' ((p.on b).jumpOrPop test target) ((p.on b').jumpOrPop test target) := by
  obtain ⟨value, stack, taken⟩ := List.exists_cons_of_length_pos enough
  have values := closed.stack
  rw [taken] at values
  simp only [Level.jumpOrPop, on, taken, List.cons_append]
  cases test value with
  | true =>
    exact .next (p := ⟨target, p.frames, value :: stack, p.calls⟩)
      (taken ▸ closed.withStack values target)
  | false => exact .next (closed.withStack (List.forall_mem_cons.mp values).2 (p.ip + 1))

theorem iterate_twin (frames : p.frames ≠ []) (var : String) (exit : Nat) :
    Effect.Twin K b b' ((p.on b).iterate var exit) ((p.on b').iterate var exit) := by
  obtain ⟨ip, frames, stack, calls⟩ := p
  obtain ⟨f, fs, rfl⟩ := List.exists_cons_of_ne_nil frames
  obtain ⟨inside, others⟩ := List.forall_mem_cons.mp closed.frames
  obtain ⟨items, others_items⟩ := List.forall_mem_cons.mp closed.items
  have top (b : Level) : (on ⟨ip, f :: fs, stack, calls⟩ b).scope.top = f := rfl
  rw [Level.iterate, Level.iterate, top, top]
  cases running : f.iter with
  | none => exact .fail _ _ _
  | some iter =>
    dsimp only
    cases next : iter.advance? with
    | none =>
      exact .next (p := ⟨exit, fs, stack, calls⟩)
        ⟨closed.stack, others, others_items, closed.calls⟩
    | some round =>
      obtain ⟨item, after⟩ := round
      obtain ⟨member, rest⟩ := LoopIter.mem_of_advance? next
      have known := items iter running
      let info := Level.loopInfo iter.next iter.items.length
      let g : Frame := { f with
        vars := (f.vars.insert var item).insert "loop" info
        iter := some after }
      refine .next (p := ⟨ip + 1, g :: fs, stack, calls⟩) ⟨closed.stack, ?_, ?_, closed.calls⟩
      · refine List.forall_mem_cons.mpr ⟨⟨inside.parent, ?_⟩, others⟩
        exact (inside.vars.insert var (known item member)).insert "loop"
          (Level.all_loopInfo Value.closedIn_of_isScalar _ _)
      · refine List.forall_mem_cons.mpr ⟨?_, others_items⟩
        rintro _ ⟨⟩
        rwa [rest]

end

theorem bindAll_topped (s : Scope) (f : Frame) (own : List Frame) (args : List (String × Value)) :
    args.foldl (fun s arg => s.bind arg.1 arg.2) (s.topped (f :: own))
      = s.topped ({ f with vars := Bindings.insertAll f.vars args } :: own) := by
  induction args generalizing f with
  | nil => rfl
  | cons arg rest ih => exact ih _

theorem truncate_topped {s : Scope} {own : List Frame} {depth : Nat} (deep : s.depth ≤ depth) :
    (s.topped own).truncate depth = s.topped (own.drop ((s.topped own).depth - depth)) := by
  have few : (s.topped own).depth - depth ≤ own.length := by
    simp only [Scope.depth, Scope.topped, List.length_append] at deep ⊢
    omega
  have dropped : (own ++ s.inner).drop _ = _ ++ s.inner := List.drop_append_of_le_length few
  exact congrArg (fun inner => ({ s with inner := inner } : Scope)) dropped

theorem pushWithParent_topped (s : Scope) (own : List Frame) (parent : Nat) :
    (s.topped own).pushWithParent parent = if parent < (s.topped own).depth then
      .ok (s.topped (⟨[], some parent, none⟩ :: own)) else .error (.deadFrame parent) := rfl

/-- With a text added to what the innermost call has captured. -/
def capture (p : Interior) (text : String) : Interior :=
  { p with calls := p.calls.modifyHead fun c => { c with captured := text :: c.captured } }

theorem Closed.capture {id depth : Nat} (h : p.Closed id K depth) (text : String) (ip : Nat) :
    Closed id K depth { p.capture text with ip := ip } := by
  refine ⟨h.stack, h.frames, h.items, ?_⟩
  have calls := h.calls
  rw [Interior.capture]
  cases all : p.calls with
  | nil => exact nofun
  | cons c rest =>
    rw [all] at calls
    exact List.forall_mem_cons.mpr (List.forall_mem_cons.mp calls)

theorem capture_ne_nil (calling : p.calls ≠ []) (text : String) : (p.capture text).calls ≠ [] := by
  rw [Interior.capture]
  cases all : p.calls with
  | nil => exact absurd all calling
  | cons c rest => exact List.cons_ne_nil _ _

/-- The level takes a text for the call. -/
theorem capture?_on (calling : p.calls ≠ []) (text : String) (b : Level) :
    (p.on b).capture? text = some ((p.capture text).on b) := by
  obtain ⟨c, rest, calls⟩ := List.exists_cons_of_ne_nil calling
  simp only [Level.capture?, on, Interior.capture, calls, List.cons_append, List.modifyHead_cons]

end Interior

theorem Level.AgreeIn.depth_on (h : b.AgreeIn K b') (p : Interior) :
    (p.on b').depth = (p.on b).depth := by
  have outside := h.depth
  simp only [Level.depth, Interior.on, List.length_append] at outside ⊢
  omega

namespace Interior

section

variable (h : b.AgreeIn K b') (closed : p.Closed b.loaded.id K b.scope.depth)
include h closed

theorem enterMacro_twin (entry : Nat) {closure : Nat} (known : K closure)
    {args : List (String × Value)} (given : Bindings.All (Value.ClosedIn b.loaded.id K) args) :
    Effect.Twin K b b' ((p.on b).enterMacro entry closure args)
      ((p.on b').enterMacro entry closure args) := by
  have depth : (p.on b').scope.depth = (p.on b).scope.depth := h.scope.depth_topped
  have pushed := pushWithParent_topped b.scope p.frames closure
  have pushed' := pushWithParent_topped b'.scope p.frames closure
  rw [h.scope.depth_topped] at pushed'
  by_cases live : closure < (b.scope.topped p.frames).depth
  · rw [if_pos live] at pushed pushed'
    rw [Level.enterMacro, Level.enterMacro,
      show (p.on b).scope.pushWithParent closure = _ from pushed,
      show (p.on b').scope.pushWithParent closure = _ from pushed', depth]
    dsimp only
    rw [bindAll_topped, bindAll_topped]
    let f : Frame := ⟨Bindings.insertAll [] args, some closure, none⟩
    let c : Call := ⟨p.ip + 1, (p.on b).scope.depth, []⟩
    refine .next (p := ⟨entry, f :: p.frames, p.stack, c :: p.calls⟩) ⟨closed.stack, ?_, ?_, ?_⟩
    · refine List.forall_mem_cons.mpr ⟨⟨?_, Bindings.All.insertAll nofun given⟩, closed.frames⟩
      intro parent same
      obtain rfl : closure = parent := Option.some.inj same
      exact known
    · exact List.forall_mem_cons.mpr ⟨nofun, closed.items⟩
    · refine List.forall_mem_cons.mpr ⟨?_, closed.calls⟩
      simp only [c, on, Scope.depth, Scope.topped, List.length_append]
      omega
  · rw [if_neg live] at pushed pushed'
    rw [Level.enterMacro, Level.enterMacro,
      show (p.on b).scope.pushWithParent closure = _ from pushed,
      show (p.on b').scope.pushWithParent closure = _ from pushed']
    exact .fail _ _ _

theorem call_twin {callee : Value} {args : List Value}
    (known : callee.All (Value.ClosedIn b.loaded.id K))
    (given : ∀ arg ∈ args, arg.All (Value.ClosedIn b.loaded.id K)) :
    Effect.Twin K b b' ((p.on b).call options callee args)
      ((p.on b').call options callee args) := by
  have loaded : (p.on b').loaded = (p.on b).loaded := h.loaded
  have depth := h.depth_on p
  cases callee with
  | macroRef ref =>
    simp only [Level.call, loaded, depth]
    by_cases own : ref.program = (p.on b).loaded.id
    · rw [if_neg (not_not_intro own), if_neg (not_not_intro own)]
      cases (p.on b).loaded.program.macroAt ref.index with
      | error fault => exact .fail _ _ _
      | ok callee =>
        dsimp only
        split
        · exact .fail _ _ _
        · split
          · exact .fail _ _ _
          · refine enterMacro_twin h closed _ (Value.all_macroRef.mp known own) ?_
            exact fun arg member => given arg.2 (List.of_mem_zip member).2
    · rw [if_pos own, if_pos own]
      exact .fail _ _ _
  | _ => exact .fail _ _ _

theorem startLoop_twin (frames : p.frames ≠ []) (enough : 1 ≤ p.stack.length) :
    Effect.Twin K b b' (p.on b).startLoop (p.on b').startLoop := by
  have current : (b'.scope.topped p.frames).current = (b.scope.topped p.frames).current :=
    h.scope.current_topped
  refine pop1_twin closed enough fun {value} {stack} _ known below => ?_
  cases found : Level.loopItems value with
  | error fault => exact .fail _ _ _
  | ok items =>
    let q (b : Level) : Interior := ⟨p.ip + 1,
      ⟨[], some (b.scope.topped p.frames).current, some (.ofItems items)⟩ :: p.frames, stack,
      p.calls⟩
    have same : q b' = q b := by simp only [q, current]
    change Effect.Twin K b b' (.next ((q b).on b)) (.next ((q b').on b'))
    rw [same]
    refine .next ⟨below.stack, ?_, ?_, closed.calls⟩
    · refine List.forall_mem_cons.mpr ⟨⟨?_, nofun⟩, closed.frames⟩
      intro parent here
      obtain rfl := Option.some.inj here
      exact h.scope.known_current frames
    · refine List.forall_mem_cons.mpr ⟨?_, closed.items⟩
      rintro _ ⟨⟩
      exact Value.all_loopItems Value.closedIn_of_isScalar known found

theorem leaveMacro_twin (calling : p.calls ≠ []) :
    Effect.Twin K b b' (p.on b).leaveMacro (p.on b').leaveMacro := by
  obtain ⟨ip, frames, stack, calls⟩ := p
  obtain ⟨c, rest, rfl⟩ := List.exists_cons_of_ne_nil calling
  obtain ⟨deep, others⟩ := List.forall_mem_cons.mp closed.calls
  have depth : (b'.scope.topped frames).depth = (b.scope.topped frames).depth :=
    h.scope.depth_topped
  have deep' : b'.scope.depth ≤ c.scopeDepth := by
    rwa [Scope.depth, h.scope.depth]
  let left := frames.drop ((b.scope.topped frames).depth - c.scopeDepth)
  have kept : (b.scope.topped frames).truncate c.scopeDepth = b.scope.topped left :=
    truncate_topped deep
  have kept' : (b'.scope.topped frames).truncate c.scopeDepth = b'.scope.topped left := by
    rw [truncate_topped deep', depth]
  let q : Interior := ⟨c.returnTo, left, .raw (String.join c.captured.reverse) :: stack, rest⟩
  have leaves (b : Level)
      (kept : (b.scope.topped frames).truncate c.scopeDepth = b.scope.topped left) :
      (on ⟨ip, frames, stack, c :: rest⟩ b).leaveMacro = .next (q.on b) := by
    simp only [Level.leaveMacro, on, List.cons_append, kept, q]
  rw [leaves b kept, leaves b' kept']
  refine .next ⟨?_, ?_, ?_, others⟩
  · exact List.forall_mem_cons.mpr ⟨Value.all_raw.mpr trivial, closed.stack⟩
  · exact fun f member => closed.frames f (List.mem_of_mem_drop member)
  · exact fun f member => closed.items f (List.mem_of_mem_drop member)

theorem macroCall_twin {count : Nat} (enough : count + 1 ≤ p.stack.length) :
    Effect.Twin K b b' ((p.on b).execute options (.macroCall count))
      ((p.on b').execute options (.macroCall count)) := by
  unfold Level.execute
  apply popMany_twin closed (Nat.le_of_succ_le enough)
  intro args stack size taken given below
  have operand : 1 ≤ stack.length := by
    simp only [taken, List.length_append, List.length_reverse, size] at enough
    omega
  apply pop1_twin below operand
  exact fun _ known beneath => call_twin h beneath known given

/-- An operation of a call does the same on top of both levels. -/
theorem execute_twin {op : Program.Resolved} (frames : p.frames ≠ [])
    (enough : op.operands ≤ p.stack.length) (runs : op ≠ .finish) (calling : p.calls ≠ []) :
    Effect.Twin K b b' ((p.on b).execute options op) ((p.on b').execute options op) := by
  have scalar {v : Value} (plain : v.IsScalar) : v.All (Value.ClosedIn b.loaded.id K) :=
    Value.all_of_isScalar Value.closedIn_of_isScalar plain
  unfold Level.execute
  cases op with
  | finish => exact absurd rfl runs
  | constLoad literal => exact yield_twin closed (scalar (Value.isScalar_toValue literal))
  | pop =>
    apply pop1_twin closed enough
    exact fun _ _ below => .next (below.withStack below.stack _)
  | loadVar name =>
    have same : (p.on b').scope.lookup name = (p.on b).scope.lookup name :=
      h.scope.lookup_topped frames closed.frames name
    dsimp only
    rw [same]
    cases found : (p.on b).scope.lookup name with
    | some value => exact yield_twin closed (h.scope.closedIn_lookup frames closed.frames found)
    | none =>
      dsimp only
      split
      · exact .fail _ _ _
      · exact yield_twin closed (scalar trivial)
  | storeVar name =>
    apply pop1_twin closed enough
    intro value stack _ known below
    obtain ⟨ip, frames, all, calls⟩ := p
    obtain ⟨f, fs, rfl⟩ := List.exists_cons_of_ne_nil frames
    obtain ⟨inside, others⟩ := List.forall_mem_cons.mp below.frames
    let g : Frame := { f with vars := f.vars.insert name value }
    refine .next (p := ⟨ip + 1, g :: fs, stack, calls⟩) ⟨below.stack, ?_, ?_, below.calls⟩
    · exact List.forall_mem_cons.mpr ⟨⟨inside.parent, inside.vars.insert name known⟩, others⟩
    · exact List.forall_mem_cons.mpr (List.forall_mem_cons.mp below.items)
  | fieldName name =>
    apply pop1_twin closed enough
    intro container stack _ known below
    exact finishWith_twin below fun _ got => known.field Value.closedIn_of_isScalar got
  | index =>
    apply pop2_twin closed enough
    intro container key stack known _ below
    exact finishWith_twin below fun _ got => known.index Value.closedIn_of_isScalar got
  | binOp op =>
    apply pop2_twin closed enough
    intro left right stack _ _ below
    exact finishWith_twin below fun _ got => scalar (Value.isScalar_binary got)
  | not =>
    apply pop1_twin closed enough
    exact fun _ _ below => yield_twin below (scalar trivial)
  | neg =>
    apply pop1_twin closed enough
    intro value stack _ _ below
    exact finishWith_twin below fun _ got => scalar (Value.isScalar_negate got)
  | makeList count =>
    apply popMany_twin closed enough
    exact fun _ _ known below => yield_twin below (Value.all_list.mpr known)
  | makeMap count =>
    apply popMany_twin closed enough
    intro items stack _ _ known below
    exact yield_twin below (Value.all_map.mpr (Bindings.all_ofList (Level.all_pairs known)))
  | filter f =>
    apply pop1_twin closed enough
    intro value stack _ _ below
    refine finishWith_twin below fun _ got => ?_
    rcases Value.isScalar_or_raw_of_filter got with plain | ⟨s, rfl⟩
    · exact scalar plain
    · exact Value.all_raw.mpr trivial
  | jump target => exact .next (closed.withStack closed.stack target)
  | popJumpIfFalse target =>
    apply pop1_twin closed enough
    intro value stack _ _ below
    cases value.isTruthy with
    | true => exact .next (below.withStack below.stack _)
    | false => exact .next (below.withStack below.stack _)
  | jumpIfFalseOrPop target => exact jumpOrPop_twin closed enough _ target
  | jumpIfTrueOrPop target => exact jumpOrPop_twin closed enough _ target
  | forStart => exact startLoop_twin h closed frames enough
  | forIter var exit => exact iterate_twin closed frames var exit
  | makeMacro callee =>
    have same : (p.on b').scope.current = (p.on b).scope.current := h.scope.current_topped
    have loaded : (p.on b').loaded = (p.on b).loaded := h.loaded
    dsimp only
    rw [same, loaded]
    exact yield_twin closed (Value.all_macroRef.mpr fun _ => h.scope.known_current frames)
  | macroCall count =>
    exact macroCall_twin h closed enough
  | macroReturn => exact leaveMacro_twin h closed calling
  | print mode =>
    apply pop1_twin closed enough
    exact fun _ _ below => .write _ below calling
  | inclusion =>
    apply pop2_twin closed enough
    exact fun _ _ below => .enter _ _ below frames calling

end

end Interior
end TemplateEngine
