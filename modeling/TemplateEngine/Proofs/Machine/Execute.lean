import TemplateEngine.Machine.Basic

/-!
# What a step does

`Level.Does` lists what can come of executing an operation: the operands that it
takes, what it changes and what it asks for. `Machine.Performs` lists what
carrying that out can lead to. Only `execute_does` and `perform_performs` look
into all operations and effects; what all of them keep is proved by cases on the
two lists.
-/

namespace TemplateEngine
namespace Level

variable {options : ExecutionOptions} {l : Level}

/-- An operation that takes some operands, top first, makes a value of them. -/
inductive Makes (options : ExecutionOptions) (l : Level) :
    Program.Resolved → List Value → Value → Prop
  | constant (literal) : Makes options l (.constLoad literal) [] literal.toValue
  | bound {name value} : l.scope.lookup name = some value →
      Makes options l (.loadVar name) [] value
  | unbound {name} : l.scope.lookup name = none → options.strictVariables = false →
      Makes options l (.loadVar name) [] .undef
  | field {name container value} : container.field name = .ok value →
      Makes options l (.fieldName name) [container] value
  | index {container key value} : container.index key = .ok value →
      Makes options l .index [key, container] value
  | binary {op first second value} : first.binary op second = .ok value →
      Makes options l (.binOp op) [second, first] value
  | not (operand) : Makes options l .not [operand] (.bool !operand.isTruthy)
  | negate {operand value} : operand.negate = .ok value → Makes options l .neg [operand] value
  | list {count items} : items.length = count →
      Makes options l (.makeList count) items (.list items.reverse)
  | map {count items} : items.length = 2 * count →
      Makes options l (.makeMap count) items (.map (Bindings.ofList (pairs items.reverse)))
  | filter {f operand value} : Filter.apply f operand = .ok value →
      Makes options l (.filter f) [operand] value
  | closure (callee) :
      Makes options l (.makeMacro callee) []
        (.macroRef ⟨l.loaded.id, callee.1, callee.2.name, l.scope.current⟩)

/-- The effects that executing an operation can have. -/
inductive Does (options : ExecutionOptions) (l : Level) : Program.Resolved → Effect → Prop
  | make {op value stack} (operands) : l.stack = operands ++ stack →
      Makes options l op operands value →
      Does options l op (.next { l with stack := value :: stack, ip := l.ip + 1 })
  | drop {value stack} : l.stack = value :: stack →
      Does options l .pop (.next { l with stack := stack, ip := l.ip + 1 })
  | store {name value stack} : l.stack = value :: stack →
      Does options l (.storeVar name)
        (.next { l with stack := stack, scope := l.scope.bind name value, ip := l.ip + 1 })
  | jump {target} : Does options l (.jump target) (.next { l with ip := target })
  | pass {value stack target} : l.stack = value :: stack → value.isTruthy = true →
      Does options l (.popJumpIfFalse target) (.next { l with stack := stack, ip := l.ip + 1 })
  | skip {value stack target} : l.stack = value :: stack → value.isTruthy = false →
      Does options l (.popJumpIfFalse target) (.next { l with stack := stack, ip := target })
  | decided {op value stack target} : l.stack = value :: stack →
      op = .jumpIfFalseOrPop target ∧ value.isTruthy = false ∨
        op = .jumpIfTrueOrPop target ∧ value.isTruthy = true →
      Does options l op (.next { l with ip := target })
  | undecided {op value stack} (target) : l.stack = value :: stack →
      op = .jumpIfFalseOrPop target ∧ value.isTruthy = true ∨
        op = .jumpIfTrueOrPop target ∧ value.isTruthy = false →
      Does options l op (.next { l with stack := stack, ip := l.ip + 1 })
  | startLoop {value stack items} : l.stack = value :: stack → loopItems value = .ok items →
      Does options l .forStart (.next { l with
        stack := stack, scope := l.scope.pushChild.setIter (.ofItems items), ip := l.ip + 1 })
  | round {var exit iter item after} : l.scope.top.iter = some iter →
      iter.advance? = some (item, after) →
      Does options l (.forIter var exit) (.next { l with
        scope := ((l.scope.setIter after).bind var item).bind "loop"
          (loopInfo iter.next iter.items.length)
        ip := l.ip + 1 })
  | endLoop {var exit iter scope} : l.scope.top.iter = some iter → iter.advance? = none →
      l.scope.pop = .ok scope →
      Does options l (.forIter var exit) (.next { l with scope := scope, ip := exit })
  | enterMacro {count args ref stack callee scope} : l.stack = args ++ .macroRef ref :: stack →
      args.length = count → ref.program = l.loaded.id →
      l.loaded.program.macroAt ref.index = .ok callee → count = callee.2.params.length →
      l.depth + 1 ≤ options.maxDepth → l.scope.pushWithParent ref.closure = .ok scope →
      Does options l (.macroCall count) (.next { l with
        stack := stack
        ip := callee.2.entry
        scope := (callee.2.params.zip args.reverse).foldl (fun s arg => s.bind arg.1 arg.2) scope
        calls := ⟨l.ip + 1, l.scope.depth, []⟩ :: l.calls })
  | leaveMacro {c calls} : l.calls = c :: calls →
      Does options l .macroReturn (.next { l with
        ip := c.returnTo
        scope := l.scope.truncate c.scopeDepth
        stack := .raw (String.join c.captured.reverse) :: l.stack
        calls := calls })
  | print {mode value stack} : l.stack = value :: stack →
      Does options l (.print mode)
        (.write (value.output (mode == .html)) { l with stack := stack })
  | inclusion {args name stack} : l.stack = args :: name :: stack →
      Does options l .inclusion (.enter name.display args { l with stack := stack })
  | finish : Does options l .finish (.finish l)
  | fail {op} (e) (taken stack) : l.stack = taken ++ stack →
      Does options l op (.fail e { l with stack := stack })

variable {op : Program.Resolved}

theorem Does.failed (e : RuntimeError) : Does options l op (.fail e l) := .fail e [] l.stack rfl

/-- The result of an operation on operands that were taken. -/
theorem does_finishWith (operands : List Value) {stack : List Value} {result : Except TypeFault Value}
    (taken : l.stack = operands ++ stack)
    (makes : ∀ {value}, result = .ok value → Makes options l op operands value) :
    Does options l op ({ l with stack := stack }.finishWith result) := by
  cases h : result with
  | error fault => exact .fail _ operands stack taken
  | ok value => exact .make operands taken (makes h)

theorem does_pop1 {rest : Value → Level → Effect}
    (does : ∀ {value stack}, l.stack = value :: stack →
      Does options l op (rest value { l with stack := stack })) :
    Does options l op (l.pop1 rest) := by
  unfold pop1
  split
  · exact .failed _
  case h_2 taken => exact does taken

theorem does_pop2 {rest : Value → Value → Level → Effect}
    (does : ∀ {first second stack}, l.stack = second :: first :: stack →
      Does options l op (rest first second { l with stack := stack })) :
    Does options l op (l.pop2 rest) := by
  refine does_pop1 fun {second} {stack} taken => ?_
  cases stack with
  | nil => exact .fail _ [second] [] taken
  | cons first stack => exact does taken

theorem does_popMany {count : Nat} {rest : List Value → Level → Effect}
    (does : ∀ {items stack}, l.stack = items ++ stack → items.length = count →
      Does options l op (rest items.reverse { l with stack := stack })) :
    Does options l op (l.popMany count rest) := by
  unfold popMany
  split
  · exact .failed _
  case isFalse enough =>
    exact does (List.take_append_drop count l.stack).symm (by rw [List.length_take]; omega)

theorem does_jumpOrPop {test : Value → Bool} {target : Nat}
    (decided : ∀ value, test value = true →
      op = .jumpIfFalseOrPop target ∧ value.isTruthy = false ∨
        op = .jumpIfTrueOrPop target ∧ value.isTruthy = true)
    (undecided : ∀ value, test value = false →
      op = .jumpIfFalseOrPop target ∧ value.isTruthy = true ∨
        op = .jumpIfTrueOrPop target ∧ value.isTruthy = false) :
    Does options l op (l.jumpOrPop test target) := by
  unfold jumpOrPop
  split
  · exact .failed _
  case h_2 value stack taken =>
    split
    case isTrue holds => exact .decided taken (decided value holds)
    case isFalse fails => exact .undecided target taken (undecided value (by simpa using fails))

theorem does_iterate (var : String) (exit : Nat) :
    Does options l (.forIter var exit) (l.iterate var exit) := by
  unfold iterate
  split
  · exact .failed _
  case h_2 iter running =>
    split
    case h_1 item after next => exact .round running next
    case h_2 ended =>
      split
      case h_1 scope popped => exact .endLoop running ended popped
      case h_2 => exact .failed _

theorem does_call {args stack : List Value} {callee : Value}
    (taken : l.stack = args ++ callee :: stack) :
    Does options l (.macroCall args.length)
      ({ l with stack := stack }.call options callee args.reverse) := by
  have failed (e : RuntimeError) :
      Does options l (.macroCall args.length) (.fail e { l with stack := stack }) :=
    .fail e (args ++ [callee]) stack (by simp [taken])
  unfold call
  split
  case h_2 => exact failed _
  case h_1 ref =>
    split
    · exact failed _
    case isFalse own =>
      split
      · exact failed _
      case h_2 index target found =>
        split
        · exact failed _
        case isFalse arity =>
          split
          · exact failed _
          case isFalse room =>
            unfold enterMacro
            split
            · exact failed _
            case h_2 scope pushed =>
              have fits : args.length = target.params.length := by
                simpa using Decidable.not_not.mp arity
              exact @Does.enterMacro _ _ _ _ _ _ (index, target) _ taken rfl (Decidable.not_not.mp own) found
                fits (Nat.le_of_not_lt room) pushed

theorem does_leaveMacro : Does options l .macroReturn l.leaveMacro := by
  unfold leaveMacro
  split
  · exact .failed _
  case h_2 calling => exact .leaveMacro calling

/-- Executing an operation has one of its effects. -/
theorem execute_does (options : ExecutionOptions) (l : Level) (op : Program.Resolved) :
    Does options l op (l.execute options op) := by
  unfold execute
  cases op with
  | finish => exact .finish
  | constLoad literal => exact .make [] rfl (.constant literal)
  | pop => exact does_pop1 .drop
  | loadVar name =>
    dsimp only
    split
    case h_1 value bound => exact .make [] rfl (.bound bound)
    case h_2 unbound =>
      split
      · exact .failed _
      case isFalse lax => exact .make [] rfl (.unbound unbound (by simpa using lax))
  | storeVar name => exact does_pop1 .store
  | fieldName name => exact does_pop1 fun taken => does_finishWith [_] taken .field
  | index => exact does_pop2 fun taken => does_finishWith [_, _] taken .index
  | binOp op => exact does_pop2 fun taken => does_finishWith [_, _] taken .binary
  | not => exact does_pop1 fun taken => .make [_] taken (.not _)
  | neg => exact does_pop1 fun taken => does_finishWith [_] taken .negate
  | makeList count =>
    exact does_popMany fun taken size => .make _ taken (.list size)
  | makeMap count =>
    exact does_popMany fun taken size => .make _ taken (.map size)
  | filter f => exact does_pop1 fun taken => does_finishWith [_] taken .filter
  | jump target => exact .jump
  | popJumpIfFalse target =>
    refine does_pop1 fun {value} {stack} taken => ?_
    cases h : value.isTruthy with
    | true => exact .pass taken h
    | false => exact .skip taken h
  | jumpIfFalseOrPop target =>
    refine does_jumpOrPop (fun value falsy => ?_) fun value truthy => ?_
    · exact .inl ⟨rfl, by simpa using falsy⟩
    · exact .inl ⟨rfl, by simpa using truthy⟩
  | jumpIfTrueOrPop target =>
    exact does_jumpOrPop (fun value truthy => .inr ⟨rfl, truthy⟩) fun value falsy => .inr ⟨rfl, falsy⟩
  | forStart =>
    refine does_pop1 fun {value} {stack} taken => ?_
    dsimp only
    split
    case h_1 items found => exact .startLoop taken found
    case h_2 => exact .fail _ [value] stack taken
  | forIter var exit => exact does_iterate var exit
  | makeMacro callee => exact .make [] rfl (.closure callee)
  | macroCall count =>
    refine does_popMany fun {args} {rest} taken size => ?_
    subst size
    unfold pop1
    dsimp only
    split
    · exact .fail _ args [] taken
    case h_2 callee stack => exact does_call taken
  | macroReturn => exact does_leaveMacro
  | print mode => exact does_pop1 .print
  | inclusion => exact does_pop2 .inclusion

end Level

namespace Machine

variable {ω : Type}

/-- What carrying out an effect can lead to. -/
inductive Performs (env : Environment ω) (m : Machine ω) : Effect → Progress ω → Prop
  | next (level) : Performs env m (.next level) (.inl { m with level := level })
  | write {text level m'} : ({ m with level := level } : Machine ω).write env.sink text = .ok m' →
      Performs env m (.write text level) (.inl { m' with level := m'.level.advance })
  | refused {text level reason} :
      ({ m with level := level } : Machine ω).write env.sink text = .error reason →
      Performs env m (.write text level)
        (.inr (({ m with level := level } : Machine ω).abort (.output reason)))
  | enter {name args level source vars loaded surroundings} : env.source = some source →
      level.depth + 1 ≤ env.options.maxDepth → m.outer.length + 1 ≤ env.options.maxIncludeDepth →
      includedVars level args = .ok vars → source name m.surroundings = (.ok loaded, surroundings) →
      Performs env m (.enter name args level) (.inl { m with
        level := .start loaded vars (level.depth + 1)
        outer := ⟨name, level⟩ :: m.outer
        surroundings := surroundings })
  | notFound {name args level source e surroundings} : env.source = some source →
      source name m.surroundings = (.error e, surroundings) →
      Performs env m (.enter name args level) (.inr
        (({ m with level := level, surroundings := surroundings } : Machine ω).abort
          (.included name e)))
  | blocked {name args} (level e) :
      Performs env m (.enter name args level)
        (.inr (({ m with level := level } : Machine ω).abort e))
  | leave {level w rest} : m.outer = w :: rest →
      Performs env m (.finish level) (.inl { m with level := w.level.advance, outer := rest })
  | finish (level) : m.outer = [] →
      Performs env m (.finish level)
        (.inr (({ m with level := level } : Machine ω).outcome level none))
  | fail (e level) :
      Performs env m (.fail e level) (.inr (({ m with level := level } : Machine ω).abort e))

theorem perform_performs (env : Environment ω) (m : Machine ω) (effect : Effect) :
    m.Performs env effect (m.perform env effect) := by
  cases effect with
  | next level => exact .next level
  | write text level =>
    rw [perform]
    split
    case h_1 m' written => exact .write written
    case h_2 reason refused => exact .refused refused
  | enter name args level =>
    rw [perform, enter]
    split
    · exact .blocked level _
    case h_2 source found =>
      dsimp only
      split
      · exact .blocked level _
      case isFalse room =>
        split
        · exact .blocked level _
        case isFalse inner_room =>
          split
          · exact .blocked level _
          case h_2 vars taken =>
            split
            case h_1 e surroundings missing => exact .notFound found missing
            case h_2 loaded surroundings given =>
              exact .enter found (Nat.le_of_not_lt room) (Nat.le_of_not_lt inner_room) taken given
  | finish level =>
    rw [perform, Machine.finish]
    split
    case h_1 none => exact .finish level none
    case h_2 w rest some => exact .leave some
  | fail e level => exact .fail e level

/-- A step ends a run with an error of its own, or executes one operation. -/
theorem step_cases (env : Environment ω) (m : Machine ω) :
    (∃ steps e, m.step env = .inr (({ m with steps := steps } : Machine ω).abort e)) ∨
      ∃ op effect, m.level.fetch = .ok op ∧ m.level.Does env.options op effect ∧
        ({ m with steps := m.steps + 1 } : Machine ω).Performs env effect (m.step env) := by
  unfold step
  split
  · exact .inl ⟨m.steps, _, rfl⟩
  · dsimp only
    split
    · exact .inl ⟨m.steps + 1, _, rfl⟩
    case h_2 op fetched =>
      exact .inr ⟨op, _, fetched, Level.execute_does env.options m.level op, perform_performs env _ _⟩

/-- A step after which a run goes on executes one operation. -/
theorem exists_of_step {env : Environment ω} {m m' : Machine ω} (first : m.step env = .inl m') :
    ∃ op effect, m.level.fetch = .ok op ∧ m.level.Does env.options op effect ∧
      ({ m with steps := m.steps + 1 } : Machine ω).Performs env effect (.inl m') := by
  rcases step_cases env m with ⟨steps, e, ended⟩ | ⟨op, effect, fetched, does, goes⟩
  · cases first.symm.trans ended
  · exact ⟨op, effect, fetched, does, first ▸ goes⟩

/-- Only the source of templates acts on the surroundings. -/
theorem surroundings_write {sink : Sink} {m m' : Machine ω} {text : String}
    (written : m.write sink text = .ok m') : m'.surroundings = m.surroundings := by
  unfold write at written
  split at written
  · cases written
    rfl
  · split at written
    · cases written
      rfl
    · split at written
      · cases written
      · cases written
        rfl

/-- What the source of templates keeps is kept by a step. -/
theorem step_surroundings {env : Environment ω} {P : ω → Prop}
    (keeps : ∀ source, env.source = some source → ∀ name s, P s → P (source name s).2)
    {m : Machine ω} (h : P m.surroundings) :
    P ((m.step env).elim Machine.surroundings Outcome.surroundings) := by
  rcases step_cases env m with ⟨steps, e, eq⟩ | ⟨op, effect, -, -, performs⟩
  · rw [eq]
    exact h
  · generalize m.step env = progress at performs
    cases performs with
    | next | refused | blocked | finish | fail | leave => exact h
    | write written =>
      have same := surroundings_write written
      dsimp only [Sum.elim_inl]
      rw [same]
      exact h
    | @enter name _ _ source _ _ _ found _ _ _ given =>
      have kept := keeps source found name m.surroundings h
      rwa [show source name m.surroundings = _ from given] at kept
    | @notFound name _ _ source _ _ found missing =>
      have kept := keeps source found name m.surroundings h
      rwa [show source name m.surroundings = _ from missing] at kept

/-- What the source of templates keeps is kept by a run. -/
theorem run_surroundings {env : Environment ω} {P : ω → Prop}
    (keeps : ∀ source, env.source = some source → ∀ name s, P s → P (source name s).2) {fuel : Nat}
    {m : Machine ω} {o : Outcome ω} (h : P m.surroundings) (ended : run env fuel m = some o) :
    P o.surroundings := by
  induction fuel generalizing m with
  | zero => cases ended
  | succ fuel ih =>
    have kept := step_surroundings keeps h
    rw [run] at ended
    split at ended
    case h_1 next eq =>
      rw [eq] at kept
      exact ih kept ended
    case h_2 outcome eq =>
      rw [eq] at kept
      obtain rfl := Option.some.inj ended
      exact kept

variable {I : ω → Prop} {env env' : Environment ω}

/-- The environments have the same bounds and the same sink, and their sources give
the same as long as the surroundings keep an invariant. -/
structure SameOn (I : ω → Prop) (env env' : Environment ω) : Prop where
  options : env'.options = env.options
  sink : env'.sink = env.sink
  source : Option.Rel (fun source source' => ∀ name s, I s → source' name s = source name s)
    env.source env'.source

theorem enter_sameOn (same : SameOn I env env') {m : Machine ω} (kept : I m.surroundings)
    (name : String) (args : Value) : m.enter env' name args = m.enter env name args := by
  have source := same.source
  unfold enter
  rw [same.options]
  generalize env.source = given at source
  generalize env'.source = given' at source
  cases source with
  | none => rfl
  | some agree =>
    dsimp only
    rw [agree name m.surroundings kept]

theorem step_sameOn (same : SameOn I env env') {m : Machine ω} (kept : I m.surroundings) :
    m.step env' = m.step env := by
  have perform (m : Machine ω) (kept : I m.surroundings) (effect : Effect) :
      m.perform env' effect = m.perform env effect := by
    cases effect with
    | next level => rfl
    | write text level => rw [Machine.perform, Machine.perform, same.sink]
    | enter name args level => exact enter_sameOn (m := { m with level := level }) same kept name args
    | finish level => rfl
    | fail e level => rfl
  unfold step
  rw [same.options]
  split
  · rfl
  · dsimp only
    split
    · rfl
    · exact perform { m with steps := m.steps + 1 } kept _

theorem run_sameOn (same : SameOn I env env')
    (keeps : ∀ source, env.source = some source → ∀ name s, I s → I (source name s).2)
    (fuel : Nat) {m : Machine ω} (kept : I m.surroundings) : run env' fuel m = run env fuel m := by
  induction fuel generalizing m with
  | zero => rfl
  | succ fuel ih =>
    have after := step_surroundings keeps kept
    rw [run, run, step_sameOn same kept]
    split
    case h_1 next eq =>
      rw [eq] at after
      exact ih after
    case h_2 => rfl

end Machine
end TemplateEngine
