import TemplateEngine.Machine.Level

/-!
# How operations fail

`Level.Fails` lists the errors in which executing an operation can end, each with what it
says about the level. Some of them lie in the program: it is malformed, or it goes round a
loop that it is not in. These are its defects, and `Level.Breaks` lists them. The others
are a matter of the values that the operation meets, of a variable, or of a bound on calls.
Only a call can fail because a frame is gone, and it does so only for a macro of its own
program.
-/

namespace TemplateEngine

namespace Value

variable {left right value : Value}

theorem field_ne_scopeEnded (value : Value) (name : String) : value.field name ≠ .error .scopeEnded := by
  unfold Value.field
  split
  · exact nofun
  · exact nofun
  · split <;> exact nofun
  · exact nofun

theorem index_ne_scopeEnded (value key : Value) : value.index key ≠ .error .scopeEnded := by
  unfold Value.index
  split <;> exact nofun

theorem arithmetic_ne_scopeEnded (op : BinaryOp) {onInts : Int64 → Int64 → Except TypeFault Value}
    {onFloats : Binary64 → Binary64 → Except TypeFault Value}
    (ints : ∀ a b, onInts a b ≠ .error .scopeEnded) (floats : ∀ x y, onFloats x y ≠ .error .scopeEnded) :
    arithmetic op onInts onFloats left right ≠ .error .scopeEnded := by
  unfold arithmetic
  split
  · exact ints _ _
  · split
    · exact floats _ _
    · exact nofun

theorem ordered_ne_scopeEnded (op : BinaryOp) (test : Ordering → Bool) :
    ordered op test left right ≠ .error .scopeEnded := by
  unfold ordered
  split <;> exact nofun

theorem binary_ne_scopeEnded (left right : Value) (op : BinaryOp) :
    left.binary op right ≠ .error .scopeEnded := by
  cases op with
  | add | sub | mul => exact arithmetic_ne_scopeEnded _ (fun _ _ => nofun) (fun _ _ => nofun)
  | div =>
    refine arithmetic_ne_scopeEnded _ (fun a b => ?_) fun x y => ?_
    · unfold divideInts
      split
      · exact nofun
      · split <;> exact nofun
    · unfold divideFloats
      split <;> exact nofun
  | mod =>
    refine arithmetic_ne_scopeEnded _ (fun a b => ?_) fun _ _ => nofun
    unfold remainderInts
    split <;> exact nofun
  | concat | eq | ne => exact nofun
  | lt | le | gt | ge => exact ordered_ne_scopeEnded _ _

theorem negate_ne_scopeEnded (value : Value) : value.negate ≠ .error .scopeEnded := by
  cases value <;> exact nofun

theorem filter_ne_scopeEnded (f : Filter) (value : Value) : f.apply value ≠ .error .scopeEnded := by
  cases f with
  | length =>
    unfold Filter.apply Filter.lengthOf
    cases value <;> exact nofun
  | _ => exact nofun

end Value

/-- The error is a fault of the program. -/
inductive RuntimeError.IsDefect : RuntimeError → Prop
  | malformed (ip defect) : IsDefect (.malformed ip defect)
  | outsideLoop (ip) : IsDefect (.iteration ip .outsideLoop)

/-- How many values an operation needs on the stack. -/
def Op.operands {κ ν μ : Type} : Op κ ν μ → Nat
  | .finish | .constLoad _ | .loadVar _ | .jump _ | .forIter _ _ | .makeMacro _ | .macroReturn => 0
  | .pop | .storeVar _ | .fieldName _ | .not | .neg | .filter _ | .popJumpIfFalse _
  | .jumpIfFalseOrPop _ | .jumpIfTrueOrPop _ | .forStart | .print _ => 1
  | .index | .binOp _ | .inclusion => 2
  | .makeList n => n
  | .makeMap n => 2 * n
  | .macroCall n => n + 1

namespace Level

/-- The defects that executing an operation can show. -/
inductive Breaks (l : Level) : Program.Resolved → RuntimeError → Prop
  | underflow {op} : l.stack.length < op.operands → Breaks l op (.malformed l.ip .stackUnderflow)
  | callee {count args ref stack fault} : l.stack = args ++ .macroRef ref :: stack →
      args.length = count → ref.program = l.loaded.id →
      l.loaded.program.macroAt ref.index = .error fault →
      Breaks l (.macroCall count) (.malformed l.ip (.operand fault))
  | outsideCall : l.calls = [] → Breaks l .macroReturn (.malformed l.ip .returnOutsideCall)
  | popRoot {var exit fault} : l.scope.top.iter.isSome → l.scope.pop = .error fault →
      Breaks l (.forIter var exit) (.malformed l.ip .popRoot)
  | outsideLoop {var exit} : l.scope.top.iter = none →
      Breaks l (.forIter var exit) (.iteration l.ip .outsideLoop)

/-- The errors in which executing an operation can end. -/
inductive Fails (options : ExecutionOptions) (l : Level) : Program.Resolved → RuntimeError → Prop
  | defect {op e} : l.Breaks op e → Fails options l op e
  | unbound {name} : l.scope.lookup name = none → options.strictVariables = true →
      Fails options l (.loadVar name) (.unbound l.ip name)
  /-- A value is of the wrong kind, or a macro of another program. -/
  | value {op fault} : fault ≠ .scopeEnded → Fails options l op (.type l.ip fault)
  | notIterable {value stack} : l.stack = value :: stack →
      Fails options l .forStart (.iteration l.ip (.notIterable value.kind))
  | arity {args ref stack index callee} : l.stack = args ++ .macroRef ref :: stack →
      ref.program = l.loaded.id → l.loaded.program.macroAt ref.index = .ok (index, callee) →
      args.length ≠ callee.params.length →
      Fails options l (.macroCall args.length)
        (.arity l.ip callee.name callee.params.length args.length)
  | callDepth {count} : options.maxDepth < l.depth + 1 →
      Fails options l (.macroCall count) (.limit (.callDepth (l.depth + 1) options.maxDepth))
  | frameGone {args ref stack} : l.stack = args ++ .macroRef ref :: stack →
      ref.program = l.loaded.id → l.scope.depth ≤ ref.closure →
      Fails options l (.macroCall args.length) (.type l.ip .scopeEnded)

variable {options : ExecutionOptions} {l l' : Level} {op : Program.Resolved} {e : RuntimeError}

theorem pop1_fail {rest : Value → Level → Effect} (h : l.pop1 rest = .fail e l') :
    l.stack.length < 1 ∧ e = .malformed l.ip .stackUnderflow ∨
      ∃ value stack, l.stack = value :: stack ∧
        rest value { l with stack := stack } = .fail e l' := by
  unfold pop1 at h
  split at h
  case h_1 empty =>
    cases h
    exact .inl ⟨by simp [empty], rfl⟩
  case h_2 value stack taken => exact .inr ⟨value, stack, taken, h⟩

theorem pop2_fail {rest : Value → Value → Level → Effect} (h : l.pop2 rest = .fail e l') :
    l.stack.length < 2 ∧ e = .malformed l.ip .stackUnderflow ∨
      ∃ first second stack, rest first second { l with stack := stack } = .fail e l' := by
  rcases pop1_fail h with ⟨short, same⟩ | ⟨second, stack, taken, h⟩
  · exact .inl ⟨by omega, same⟩
  · rcases pop1_fail h with ⟨short, same⟩ | ⟨first, others, -, h⟩
    · refine .inl ⟨?_, same⟩
      simp only [taken, List.length_cons]
      exact Nat.succ_lt_succ short
    · exact .inr ⟨first, second, others, h⟩

theorem popMany_fail {count : Nat} {rest : List Value → Level → Effect}
    (h : l.popMany count rest = .fail e l') :
    l.stack.length < count ∧ e = .malformed l.ip .stackUnderflow ∨
      ∃ args stack, l.stack = args ++ stack ∧ args.length = count ∧
        rest args.reverse { l with stack := stack } = .fail e l' := by
  unfold popMany at h
  split at h
  case isTrue short =>
    cases h
    exact .inl ⟨short, rfl⟩
  case isFalse enough =>
    refine .inr ⟨_, _, (List.take_append_drop count l.stack).symm, ?_, h⟩
    rw [List.length_take]
    omega

theorem jumpOrPop_fail {test : Value → Bool} {target : Nat}
    (h : l.jumpOrPop test target = .fail e l') :
    l.stack.length < 1 ∧ e = .malformed l.ip .stackUnderflow := by
  unfold jumpOrPop at h
  split at h
  case h_1 empty =>
    cases h
    exact ⟨by simp [empty], rfl⟩
  case h_2 =>
    split at h <;> cases h

theorem fails_of_finishWith {stack : List Value} {result : Except TypeFault Value}
    (fine : result ≠ .error .scopeEnded)
    (h : ({ l with stack := stack } : Level).finishWith result = .fail e l') :
    l.Fails options op e := by
  cases result with
  | ok value => cases h
  | error fault =>
    cases h
    exact .value fun same => fine (congrArg Except.error same)

theorem eq_notIterable {value : Value} {fault : LoopFault} (h : loopItems value = .error fault) :
    fault = .notIterable value.kind := by
  cases value <;> cases h <;> rfl

theorem iterate_breaks {var : String} {exit : Nat} (h : l.iterate var exit = .fail e l') :
    l.Breaks (.forIter var exit) e := by
  unfold iterate at h
  split at h
  case h_1 none =>
    cases h
    exact .outsideLoop none
  case h_2 iter running =>
    split at h
    · cases h
    · split at h
      · cases h
      case h_2 fault stuck =>
        cases h
        exact .popRoot (by simp [running]) stuck

/-- A call fails unless it enters the body of a macro. -/
theorem fails_of_call {args stack : List Value} {callee : Value}
    (taken : l.stack = args ++ callee :: stack)
    (h : ({ l with stack := stack } : Level).call options callee args.reverse = .fail e l') :
    l.Fails options (.macroCall args.length) e := by
  unfold call at h
  split at h
  case h_2 =>
    cases h
    exact .value nofun
  case h_1 ref =>
    rw [List.length_reverse] at h
    split at h
    · cases h
      exact .value nofun
    case isFalse own =>
      have own : ref.program = l.loaded.id := Decidable.not_not.mp own
      split at h
      case h_1 fault missing =>
        cases h
        exact .defect (.callee taken rfl own missing)
      case h_2 index callee found =>
        split at h
        case isTrue differs =>
          cases h
          exact .arity taken own found differs
        · split at h
          case isTrue deep =>
            cases h
            exact .callDepth deep
          · unfold enterMacro Scope.pushWithParent at h
            by_cases live : ref.closure < l.scope.depth
            · simp only [live, if_true] at h
              cases h
            · simp only [live, if_false] at h
              cases h
              exact .frameGone taken own (Nat.le_of_not_lt live)

/-- An operation that fails ends in one of its errors. -/
theorem fails_of_execute (h : l.execute options op = .fail e l') : l.Fails options op e := by
  unfold execute at h
  have underflow (short : l.stack.length < op.operands)
      (same : e = .malformed l.ip .stackUnderflow) : l.Fails options op e :=
    .defect (same ▸ .underflow short)
  cases op with
  | finish | constLoad | jump | makeMacro => cases h
  | loadVar name =>
    dsimp only at h
    split at h
    · cases h
    case h_2 unbound =>
      split at h
      case isTrue strict =>
        cases h
        exact .unbound unbound strict
      case isFalse => cases h
  | pop | storeVar | not | popJumpIfFalse | print =>
    rcases pop1_fail h with ⟨short, same⟩ | ⟨value, stack, -, h⟩
    · exact underflow short same
    · cases h
  | fieldName name =>
    rcases pop1_fail h with ⟨short, same⟩ | ⟨value, stack, -, h⟩
    · exact underflow short same
    · exact fails_of_finishWith (value.field_ne_scopeEnded name) h
  | neg =>
    rcases pop1_fail h with ⟨short, same⟩ | ⟨value, stack, -, h⟩
    · exact underflow short same
    · exact fails_of_finishWith value.negate_ne_scopeEnded h
  | filter f =>
    rcases pop1_fail h with ⟨short, same⟩ | ⟨value, stack, -, h⟩
    · exact underflow short same
    · exact fails_of_finishWith (Value.filter_ne_scopeEnded f value) h
  | index =>
    rcases pop2_fail h with ⟨short, same⟩ | ⟨container, key, stack, h⟩
    · exact underflow short same
    · exact fails_of_finishWith (container.index_ne_scopeEnded key) h
  | binOp op =>
    rcases pop2_fail h with ⟨short, same⟩ | ⟨left, right, stack, h⟩
    · exact underflow short same
    · exact fails_of_finishWith (left.binary_ne_scopeEnded right op) h
  | inclusion =>
    rcases pop2_fail h with ⟨short, same⟩ | ⟨name, args, stack, h⟩
    · exact underflow short same
    · cases h
  | makeList | makeMap =>
    rcases popMany_fail h with ⟨short, same⟩ | ⟨items, stack, -, -, h⟩
    · exact underflow short same
    · cases h
  | jumpIfFalseOrPop | jumpIfTrueOrPop =>
    obtain ⟨short, same⟩ := jumpOrPop_fail h
    exact underflow short same
  | forStart =>
    rcases pop1_fail h with ⟨short, same⟩ | ⟨value, stack, taken, h⟩
    · exact underflow short same
    · split at h
      · cases h
      case h_2 fault found =>
        cases h
        exact eq_notIterable found ▸ .notIterable taken
  | forIter var exit => exact .defect (iterate_breaks h)
  | macroCall count =>
    rcases popMany_fail h with ⟨short, same⟩ | ⟨args, rest, taken, size, h⟩
    · exact underflow (Nat.lt_succ_of_lt short) same
    · rcases pop1_fail h with ⟨short, same⟩ | ⟨callee, stack, shown, h⟩
      · apply underflow _ same
        simp only [taken, List.length_append, size, Op.operands]
        exact Nat.add_lt_add_left short count
      · have shown : rest = callee :: stack := shown
        rw [shown] at taken
        exact size ▸ fails_of_call taken h
  | macroReturn =>
    dsimp only at h
    unfold leaveMacro at h
    split at h
    case h_1 none =>
      cases h
      exact .defect (.outsideCall none)
    case h_2 => cases h

/-- What a defect that an operation shows says about the level. -/
theorem Fails.breaks (fails : l.Fails options op e) (defect : e.IsDefect) : l.Breaks op e := by
  cases fails with
  | defect breaks => exact breaks
  | _ => cases defect

end Level
end TemplateEngine
