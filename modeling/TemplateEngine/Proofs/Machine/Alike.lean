import TemplateEngine.Machine.Level
import TemplateEngine.Proofs.Scope.Alike

/-!
# Levels that differ in the identities of programs

Alike levels execute the same program under identities that are linked. An operation
does the same in both, except where it depends on identities: when a macro is called
and when macros are compared. Several programs of the one level may be linked to a
single one of the other. `Level.Unmixed` says that at an operation nothing depends on
which of them a macro belongs to.
-/

namespace TemplateEngine

/-- The levels differ at most in the programs that macros belong to. -/
structure Level.Alike (R : Nat → Nat → Prop) (l l' : Level) : Prop where
  program : l'.loaded.program = l.loaded.program
  linked : R l.loaded.id l'.loaded.id
  ip : l'.ip = l.ip
  scope : l.scope.Alike R l'.scope
  stack : List.Forall₂ (Value.Alike R) l.stack l'.stack
  calls : l'.calls = l.calls
  written : l'.written = l.written
  outerDepth : l'.outerDepth = l.outerDepth

/-- The same effect on alike levels. -/
inductive Effect.Alike (R : Nat → Nat → Prop) : Effect → Effect → Prop
  | next {l l'} : l.Alike R l' → Effect.Alike R (.next l) (.next l')
  | write {l l'} (text) : l.Alike R l' → Effect.Alike R (.write text l) (.write text l')
  | enter {args args' l l'} (name) : args.Alike R args' → l.Alike R l' →
      Effect.Alike R (.enter name args l) (.enter name args' l')
  | finish {l l'} : l.Alike R l' → Effect.Alike R (.finish l) (.finish l')
  | fail {l l'} (e) : l.Alike R l' → Effect.Alike R (.fail e l) (.fail e l')

/-- What the operation finds out about identities is the same in both levels: whether
the level owns the macro that it calls, and whether values are equal. -/
structure Level.AgreesOn (l l' : Level) (op : Program.Resolved) : Prop where
  call : ∀ (count : Nat) (ref ref' : MacroRef), op = .macroCall count →
    l.stack[count]? = some (.macroRef ref) → l'.stack[count]? = some (.macroRef ref') →
    (ref'.program = l'.loaded.id ↔ ref.program = l.loaded.id)
  comparison : ∀ left right stack left' right' stack', op = .binOp .eq ∨ op = .binOp .ne →
    l.stack = right :: left :: stack → l'.stack = right' :: left' :: stack' →
    left.looseEq right = left'.looseEq right'

/-- The operation calls no macro of another program that is `one` with its own, and
compares no values that are equal only after such programs have been exchanged. -/
structure Level.Unmixed (one : Nat → Nat → Prop) (l : Level) (op : Program.Resolved) : Prop where
  call : ∀ args ref stack, op = .macroCall args.length → l.stack = args ++ .macroRef ref :: stack →
    one ref.program l.loaded.id → ref.program = l.loaded.id
  comparison : ∀ left right stack other, op = .binOp .eq ∨ op = .binOp .ne →
    l.stack = right :: left :: stack → right.Alike (fun i j => i = j ∨ one i j) other →
    left.looseEq other = true → left.looseEq right = true

/-- No program is linked to two, and those that are linked to the same are `one`. -/
structure Linking (one R : Nat → Nat → Prop) : Prop where
  functional : ∀ i j j', R i j → R i j' → j = j'
  merged : ∀ i i' j, R i j → R i' j → i = i' ∨ one i i'

namespace Level

variable {one R S : Nat → Nat → Prop} {options : ExecutionOptions} {l l' : Level}
  {value value' : Value} {items items' : List Value}

theorem Alike.mono (sub : ∀ i j, R i j → S i j) (h : l.Alike R l') : l.Alike S l' :=
  { h with
    linked := sub _ _ h.linked
    scope := h.scope.mono sub
    stack := Value.items_mono sub h.stack }

theorem alike_start {loaded loaded' : Loaded} (program : loaded'.program = loaded.program)
    (linked : R loaded.id loaded'.id) {vars vars' : Vars} (hv : Bindings.Alike R vars vars')
    (outerDepth : Nat) : (start loaded vars outerDepth).Alike R (start loaded' vars' outerDepth) :=
  ⟨program, linked, rfl, Scope.alike_ofVars hv, .nil, rfl, rfl, rfl⟩

theorem Alike.depth (h : l.Alike R l') : l'.depth = l.depth := by
  rw [Level.depth, Level.depth, h.calls, h.outerDepth]

theorem Alike.fetch (h : l.Alike R l') : l'.fetch = l.fetch := by
  rw [Level.fetch, Level.fetch, h.program, h.ip]

theorem Alike.advance (h : l.Alike R l') : l.advance.Alike R l'.advance :=
  { h with ip := congrArg (· + 1) h.ip }

theorem Alike.jump (h : l.Alike R l') (target : Nat) : (l.jump target).Alike R (l'.jump target) :=
  { h with ip := rfl }

theorem Alike.withStack (h : l.Alike R l') {stack stack' : List Value}
    (hs : List.Forall₂ (Value.Alike R) stack stack') :
    ({ l with stack := stack } : Level).Alike R { l' with stack := stack' } :=
  { h with stack := hs }

theorem Alike.withScope (h : l.Alike R l') {scope scope' : Scope} (hs : scope.Alike R scope') :
    ({ l with scope := scope } : Level).Alike R { l' with scope := scope' } :=
  { h with scope := hs }

theorem Alike.push (h : l.Alike R l') (hv : value.Alike R value') :
    (l.push value).Alike R (l'.push value') :=
  h.withStack (.cons hv h.stack)

theorem Alike.fault (h : l.Alike R l') (e : Nat → RuntimeError) :
    Effect.Alike R (.fail (e l.ip) l) (.fail (e l'.ip) l') := by
  rw [h.ip]
  exact .fail _ h

theorem Alike.defect (h : l.Alike R l') (d : ProgramDefect) :
    (l.defect d).Alike R (l'.defect d) :=
  h.fault (.malformed · d)

theorem Alike.typeFault (h : l.Alike R l') (fault : TypeFault) :
    (l.typeFault fault).Alike R (l'.typeFault fault) :=
  h.fault (.type · fault)

theorem Alike.yield (h : l.Alike R l') (hv : value.Alike R value') :
    (l.yield value).Alike R (l'.yield value') :=
  .next (h.push hv).advance

theorem Alike.finishWith (h : l.Alike R l') {result result' : Except TypeFault Value}
    (hr : ExceptRel (Value.Alike R) result result') :
    (l.finishWith result).Alike R (l'.finishWith result') := by
  cases hr with
  | error fault => exact h.typeFault fault
  | ok hv => exact h.yield hv

theorem Alike.stack_cases (h : l.Alike R l') :
    (l.stack = [] ∧ l'.stack = []) ∨ ∃ value stack value' stack', l.stack = value :: stack ∧
      l'.stack = value' :: stack' ∧ value.Alike R value' ∧
      ({ l with stack := stack } : Level).Alike R { l' with stack := stack' } := by
  have aligned := h.stack
  generalize top : l.stack = all at aligned
  generalize top' : l'.stack = all' at aligned
  cases aligned with
  | nil => exact .inl ⟨rfl, rfl⟩
  | cons first others => exact .inr ⟨_, _, _, _, rfl, rfl, first, h.withStack others⟩

theorem Alike.pop1 (h : l.Alike R l') {rest rest' : Value → Level → Effect}
    (hrest : ∀ {value value' stack stack'}, l.stack = value :: stack → l'.stack = value' :: stack' →
      value.Alike R value' →
      ({ l with stack := stack } : Level).Alike R { l' with stack := stack' } →
      (rest value { l with stack := stack }).Alike R (rest' value' { l' with stack := stack' })) :
    (l.pop1 rest).Alike R (l'.pop1 rest') := by
  unfold Level.pop1
  rcases h.stack_cases with ⟨top, top'⟩ | ⟨value, stack, value', stack', top, top', first, below⟩
  · rw [top, top']
    exact h.defect _
  · rw [top, top']
    exact hrest top top' first below

theorem Alike.pop2 (h : l.Alike R l') {rest rest' : Value → Value → Level → Effect}
    (hrest : ∀ {first first' second second' stack stack'}, l.stack = second :: first :: stack →
      l'.stack = second' :: first' :: stack' → first.Alike R first' → second.Alike R second' →
      ({ l with stack := stack } : Level).Alike R { l' with stack := stack' } →
      (rest first second { l with stack := stack }).Alike R
        (rest' first' second' { l' with stack := stack' })) :
    (l.pop2 rest).Alike R (l'.pop2 rest') := by
  apply h.pop1
  intro second second' stack stack' taken taken' alike_second below
  apply below.pop1
  intro first first' lower lower' next next' alike_first beneath
  refine hrest ?_ ?_ alike_first alike_second beneath
  · rw [taken]
    exact congrArg _ next
  · rw [taken']
    exact congrArg _ next'

theorem Alike.popMany (h : l.Alike R l') (count : Nat) {rest rest' : List Value → Level → Effect}
    (hrest : ∀ {items items' stack stack' : List Value}, l.stack = items ++ stack →
      l'.stack = items' ++ stack' → items.length = count → items'.length = count →
      List.Forall₂ (Value.Alike R) items.reverse items'.reverse →
      ({ l with stack := stack } : Level).Alike R { l' with stack := stack' } →
      (rest items.reverse { l with stack := stack }).Alike R
        (rest' items'.reverse { l' with stack := stack' })) :
    (l.popMany count rest).Alike R (l'.popMany count rest') := by
  unfold Level.popMany
  rw [h.stack.length_eq]
  split
  · exact h.defect _
  case isFalse enough =>
    have taken := List.forall₂_take count h.stack
    have below := List.forall₂_drop count h.stack
    have enough : count ≤ l'.stack.length := Nat.le_of_not_lt enough
    refine hrest (List.take_append_drop count l.stack).symm (List.take_append_drop count l'.stack).symm
      (List.length_take_of_le ?_) (List.length_take_of_le enough) (List.rel_reverse taken)
      (h.withStack below)
    rwa [h.stack.length_eq]

theorem pairs_alike : ∀ {items items' : List Value}, List.Forall₂ (Value.Alike R) items items' →
    Bindings.Alike R (pairs items) (pairs items')
  | _, _, .nil => .nil
  | _, _, .cons _ .nil => .nil
  | _, _, .cons key (.cons value rest) => by
    rw [pairs, pairs, key.display]
    exact .cons value (pairs_alike rest)

theorem keys_alike : ∀ {b c : Vars}, Bindings.Alike R b c →
    List.Forall₂ (Value.Alike R) (b.map fun entry => .str entry.1) (c.map fun entry => .str entry.1)
  | _, _, .nil => .nil
  | _, _, .cons _ rest => .cons (Value.alike_plain trivial) (keys_alike rest)

theorem loopItems_alike (h : value.Alike R value') :
    ExceptRel (List.Forall₂ (Value.Alike R)) (loopItems value) (loopItems value') := by
  cases h with
  | plain plain =>
    cases value with
    | list _ | map _ | macroRef _ => exact plain.elim
    | undef => exact .ok .nil
    | _ => exact .error _
  | list items => exact .ok items
  | map entries => exact .ok (keys_alike entries)
  | macroRef _ => exact .error _

theorem loopInfo_alike (place size : Nat) : (loopInfo place size).Alike R (loopInfo place size) := by
  have plain {v : Value} (h : v.IsPlain) : v.Alike R v := Value.alike_plain h
  apply Value.Alike.map
  apply Bindings.Alike.insertAll .nil
  refine .cons (plain ?_) (.cons (plain ?_) (.cons (plain ?_) (.cons (plain ?_) (.cons (plain ?_) .nil))))
  all_goals trivial

theorem Alike.startLoop (h : l.Alike R l') : l.startLoop.Alike R l'.startLoop := by
  apply h.pop1
  intro value value' stack stack' _ _ alike below
  have found := loopItems_alike alike
  generalize loopItems value = items at found
  generalize loopItems value' = items' at found
  cases found with
  | error fault =>
    exact below.fault (.iteration · fault)
  | ok all =>
    have fresh : (LoopIter.ofItems _).Alike R (LoopIter.ofItems _) := ⟨all, rfl⟩
    exact .next (below.withScope (h.scope.pushChild.setIter fresh)).advance

theorem Alike.iterate (h : l.Alike R l') (var : String) (exit : Nat) :
    (l.iterate var exit).Alike R (l'.iterate var exit) := by
  have running := h.scope.top.iter
  unfold Level.iterate
  generalize l.scope.top.iter = iter at running
  generalize l'.scope.top.iter = iter' at running
  cases running with
  | none =>
    exact h.fault (.iteration · .outsideLoop)
  | @some iter iter' alike =>
    have advanced := alike.advance?
    dsimp only
    rw [alike.next, alike.items.length_eq]
    generalize iter.advance? = found at advanced
    generalize iter'.advance? = found' at advanced
    cases advanced with
    | none =>
      have popped := h.scope.pop
      dsimp only
      generalize l.scope.pop = scope at popped
      generalize l'.scope.pop = scope' at popped
      cases popped with
      | error _ => exact h.defect _
      | ok outer => exact .next ((h.withScope outer).jump exit)
    | @some round round' both =>
      have bound := (h.scope.setIter both.2).bind var both.1
      have told := bound.bind "loop" (loopInfo_alike iter.next iter'.items.length)
      exact .next (h.withScope told).advance

theorem Alike.enterMacro (h : l.Alike R l') (entry closure : Nat) {args args' : Vars}
    (hargs : Bindings.Alike R args args') :
    (l.enterMacro entry closure args).Alike R (l'.enterMacro entry closure args') := by
  have pushed := h.scope.pushWithParent closure
  unfold Level.enterMacro
  generalize l.scope.pushWithParent closure = scope at pushed
  generalize l'.scope.pushWithParent closure = scope' at pushed
  cases pushed with
  | error _ => exact h.typeFault _
  | ok inner =>
    have bound := inner.bindAll hargs
    refine .next { h with ip := rfl, scope := bound, calls := ?_ }
    dsimp only
    rw [h.ip, h.scope.depth, h.calls]

theorem zip_alike (params : List String) (h : List.Forall₂ (Value.Alike R) items items') :
    Bindings.Alike R (params.zip items) (params.zip items') := by
  induction h generalizing params with
  | nil =>
    rw [List.zip_nil_right]
    exact .nil
  | cons first _ ih =>
    cases params with
    | nil => exact .nil
    | cons param params => exact .cons first (ih params)

/-- A call has the same effect if each level or none owns the macro that it calls. -/
theorem Alike.call (h : l.Alike R l') (hc : value.Alike R value')
    (hargs : List.Forall₂ (Value.Alike R) items items')
    (own : ∀ ref ref', value = .macroRef ref → value' = .macroRef ref' →
      (ref'.program = l'.loaded.id ↔ ref.program = l.loaded.id)) :
    (l.call options value items).Alike R (l'.call options value' items') := by
  cases hc with
  | plain plain =>
    cases value with
    | list _ | map _ | macroRef _ => exact plain.elim
    | _ => exact h.typeFault _
  | list _ | map _ => exact h.typeFault _
  | @macroRef i j index name closure linked =>
    have own : j = l'.loaded.id ↔ i = l.loaded.id := own _ _ rfl rfl
    unfold Level.call
    simp only [ne_eq, own, h.program, h.depth, h.ip, hargs.length_eq]
    split
    · exact h.typeFault _
    · split
      · exact h.defect _
      · split
        · exact .fail _ h
        · split
          · exact .fail _ h
          · exact h.enterMacro _ _ (zip_alike _ hargs)

theorem Alike.leaveMacro (h : l.Alike R l') : l.leaveMacro.Alike R l'.leaveMacro := by
  unfold Level.leaveMacro
  rw [h.calls]
  split
  · exact h.defect _
  · refine .next { h with ip := rfl, scope := h.scope.truncate _, stack := .cons ?_ h.stack, calls := rfl }
    exact Value.alike_plain trivial

theorem Alike.jumpOrPop (h : l.Alike R l') {test : Value → Bool} (target : Nat)
    (same : ∀ {v w : Value}, v.Alike R w → test v = test w) :
    (l.jumpOrPop test target).Alike R (l'.jumpOrPop test target) := by
  unfold Level.jumpOrPop
  rcases h.stack_cases with ⟨top, top'⟩ | ⟨value, stack, value', stack', top, top', first, below⟩
  · rw [top, top']
    exact h.defect _
  · rw [top, top']
    dsimp only
    rw [same first]
    split
    · exact .next (h.jump target)
    · exact .next below.advance

/-- Loose comparison gives the same. -/
theorem looseEq_unmixed (linking : Linking one R) {left left' right right' : Value}
    (hl : left.Alike R left') (hr : right.Alike R right')
    (unmixed : ∀ other, right.Alike (fun i j => i = j ∨ one i j) other →
      left.looseEq other = true → left.looseEq right = true) :
    left.looseEq right = left'.looseEq right' := by
  rw [Bool.eq_iff_iff]
  constructor
  · exact hl.looseEq linking.functional hr
  · intro equal
    obtain ⟨other, alike, same⟩ := hl.exists_looseEq linking.merged hr equal
    exact unmixed other alike same

/-- Where nothing depends on which of several programs a macro belongs to, alike levels
find out the same. -/
theorem Unmixed.agreesOn {op : Program.Resolved} (unmixed : l.Unmixed one op)
    (linking : Linking one R) (h : l.Alike R l') : l.AgreesOn l' op where
  call := by
    rintro count ref ref' rfl found found'
    have alike := rel_getElem? h.stack count
    rw [found, found'] at alike
    cases alike with
    | some alike =>
      cases alike with
      | plain plain => exact plain.elim
      | @macroRef i j index name closure linked =>
        obtain ⟨place, eq⟩ := List.getElem?_eq_some_iff.mp found
        constructor
        · rintro rfl
          rcases linking.merged _ _ _ linked h.linked with same | one
          · exact same
          · refine unmixed.call (l.stack.take count) _ (l.stack.drop (count + 1)) ?_ ?_ one
            · rw [List.length_take_of_le (Nat.le_of_lt place)]
            · rw [← eq, List.getElem_cons_drop, List.take_append_drop]
        · rintro rfl
          exact linking.functional _ _ _ linked h.linked
  comparison := by
    intro left right stack left' right' stack' which taken taken'
    have alike := h.stack
    rw [taken, taken'] at alike
    cases alike with
    | cons second others =>
      cases others with
      | cons first _ =>
        apply looseEq_unmixed linking first second
        intro other
        exact unmixed.comparison left right stack other which taken

/-- Executing an operation has the same effect on alike levels. -/
theorem Alike.execute (h : l.Alike R l') (options : ExecutionOptions)
    {op : Program.Resolved} (agrees : l.AgreesOn l' op) :
    (l.execute options op).Alike R (l'.execute options op) := by
  unfold Level.execute
  cases op with
  | finish => exact .finish h
  | constLoad literal => exact h.yield (Value.alike_toValue literal)
  | pop => exact h.pop1 fun _ _ _ below => .next below.advance
  | loadVar name =>
    have found := h.scope.lookup name
    dsimp only
    generalize l.scope.lookup name = value at found
    generalize l'.scope.lookup name = value' at found
    cases found with
    | none =>
      dsimp only
      split
      · exact h.fault (.unbound · name)
      · exact h.yield (Value.alike_plain trivial)
    | some alike => exact h.yield alike
  | storeVar name =>
    exact h.pop1 fun _ _ alike below => .next (below.withScope (h.scope.bind name alike)).advance
  | fieldName name => exact h.pop1 fun _ _ alike below => below.finishWith (alike.field name)
  | index => exact h.pop2 fun _ _ container key below => below.finishWith (container.index key)
  | binOp op =>
    apply h.pop2
    intro left left' right right' stack stack' taken taken' first second below
    apply below.finishWith
    apply first.binary second
    intro comparison
    refine agrees.comparison _ _ _ _ _ _ ?_ taken taken'
    rcases comparison with rfl | rfl
    · exact .inl rfl
    · exact .inr rfl
  | not =>
    apply h.pop1
    intro value value' stack stack' _ _ alike below
    rw [alike.isTruthy]
    exact below.yield (Value.alike_plain trivial)
  | neg => exact h.pop1 fun _ _ alike below => below.finishWith alike.negate
  | makeList count => exact h.popMany count fun _ _ _ _ items below => below.yield (.list items)
  | makeMap count =>
    exact h.popMany _ fun _ _ _ _ items below =>
      below.yield (.map (Bindings.Alike.insertAll .nil (pairs_alike items)))
  | filter f => exact h.pop1 fun _ _ alike below => below.finishWith (alike.filter f)
  | jump target => exact .next (h.jump target)
  | popJumpIfFalse target =>
    apply h.pop1
    intro value value' stack stack' _ _ alike below
    rw [alike.isTruthy]
    split
    · exact .next below.advance
    · exact .next (below.jump target)
  | jumpIfFalseOrPop target => exact h.jumpOrPop target fun alike => congrArg not alike.isTruthy
  | jumpIfTrueOrPop target => exact h.jumpOrPop target fun alike => alike.isTruthy
  | forStart => exact h.startLoop
  | forIter var exit => exact h.iterate var exit
  | makeMacro callee =>
    obtain ⟨index, target⟩ := callee
    dsimp only
    rw [h.scope.current]
    exact h.yield (.macroRef h.linked)
  | macroCall count =>
    apply h.popMany
    intro args args' stack stack' taken taken' size size' alike below
    apply below.pop1
    intro callee callee' lower lower' beneath beneath' alike_callee under
    refine under.call alike_callee alike ?_
    rintro ref ref' rfl rfl
    apply agrees.call count ref ref' rfl
    · rw [taken, ← size, List.getElem?_append_right (Nat.le_refl _), Nat.sub_self]
      exact congrArg (·[0]?) beneath
    · rw [taken', ← size', List.getElem?_append_right (Nat.le_refl _), Nat.sub_self]
      exact congrArg (·[0]?) beneath'
  | macroReturn => exact h.leaveMacro
  | print mode =>
    apply h.pop1
    intro value value' stack stack' _ _ alike below
    rw [alike.output]
    exact .write _ below
  | inclusion =>
    apply h.pop2
    intro name name' args args' stack stack' _ _ alike_name alike_args below
    rw [alike_name.display]
    exact .enter _ alike_args below

end Level
end TemplateEngine
