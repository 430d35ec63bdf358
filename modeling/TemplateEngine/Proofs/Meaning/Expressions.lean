import TemplateEngine.Proofs.Meaning.Calls

/-!
# Compiled expressions

By induction on the shape of code: a machine at the start of the code of an
expression does what evaluating it does and leaves the value on its stack.
-/

namespace TemplateEngine
namespace Meaning

variable {ω : Type} {setting : Setting ω} {run : BodyAction ω} {site : Site} {place : Place}
  {full : List SourceOp} {fuel rounds : Nat}

section

variable (setting run fuel rounds site place full)

/-- The machine does what evaluating does and then has the value on its stack. -/
abbrev Evaluates (start : Nat) (e : Expr) (ops : List SourceOp) : Prop :=
  ∀ {m stack s next}, CodeAt full start ops → At m site start stack s → next = start + ops.length →
    Leads setting.env site.outer (fuel + 1) m
      (fun value s' m' => At m' site next (value :: stack) s')
      (eval (interpreter setting run rounds place) e s)

/-- The machine does what evaluating does and then has the values on its stack,
the last one on top. -/
abbrev EvaluatesList (start : Nat) (items : List Expr) (ops : List SourceOp) : Prop :=
  ∀ {m stack s next}, CodeAt full start ops → At m site start stack s → next = start + ops.length →
    Leads setting.env site.outer (fuel + 1) m
      (fun values s' m' => values.length = items.length ∧
        At m' site next (values.reverse ++ stack) s')
      (evalList (interpreter setting run rounds place) items s)

end

variable {m : Machine ω} {stack : List Value} {s : State ω} {start next : Nat}
  {left right operand : Expr} {first second inner : List SourceOp} {op : SourceOp}

/-- An operation on what one piece of code has left. -/
theorem Evaluates.unary {f : Value → Except TypeFault Value} (fits : Fits site place full)
    (leads : Evaluates setting run site place full fuel rounds start operand inner)
    (executes : ∀ (l : Level) (a : Value) (stack : List Value), l.stack = a :: stack →
      l.execute setting.options (op.resolved (macrosBefore full l.ip))
        = { l with stack := stack }.finishWith (f a))
    (code : CodeAt full start (inner ++ [op])) (here : At m site start stack s)
    (e : next = start + (inner ++ [op]).length) :
    Leads setting.env site.outer (fuel + 1) m
      (fun value s' m' => At m' site next (value :: stack) s')
      ((do
        let a ← eval (interpreter setting run rounds place) operand
        Action.ofFault (f a)) s) := by
  apply Leads.bind (leads code.left here rfl)
  intro a s' m' there
  refine At.leads_compute [a] there fits (code.right rfl) ?_ ?_
  · rw [e, List.length_append, List.length_singleton, Nat.add_assoc]
  · rw [← there.ip]
    exact executes _ a stack there.stack

/-- An operation on what two pieces of code have left. -/
theorem Evaluates.binary {f : Value → Value → Except TypeFault Value} (fits : Fits site place full)
    (leads : Evaluates setting run site place full fuel rounds start left first)
    (leads' : Evaluates setting run site place full fuel rounds (start + first.length) right second)
    (executes : ∀ (l : Level) (a b : Value) (stack : List Value), l.stack = b :: a :: stack →
      l.execute setting.options (op.resolved (macrosBefore full l.ip))
        = { l with stack := stack }.finishWith (f a b))
    (code : CodeAt full start (first ++ (second ++ [op]))) (here : At m site start stack s)
    (e : next = start + (first ++ (second ++ [op])).length) :
    Leads setting.env site.outer (fuel + 1) m
      (fun value s' m' => At m' site next (value :: stack) s')
      ((do
        let a ← eval (interpreter setting run rounds place) left
        let b ← eval (interpreter setting run rounds place) right
        Action.ofFault (f a b)) s) := by
  apply Leads.bind (leads code.left here rfl)
  intro a s' m' there
  have code' := code.right rfl
  apply Leads.bind (leads' code'.left there rfl)
  intro b s'' m'' there'
  refine At.leads_compute [b, a] there' fits (code'.right rfl) ?_ ?_
  · simp only [e, List.length_append, List.length_singleton, Nat.add_assoc]
  · rw [← there'.ip]
    exact executes _ a b stack there'.stack

/-- The first value is that of the whole if a test holds of it; then the code of the second one is
jumped over. -/
theorem Evaluates.logic {test : Value → Bool} {proceed : Value → Action ω Value}
    (fits : Fits site place full)
    (leads : Evaluates setting run site place full fuel rounds start left first)
    (leads' : Evaluates setting run site place full fuel rounds (start + first.length + 1) right second)
    (executes : ∀ l : Level, l.execute setting.options (op.resolved (macrosBefore full l.ip))
      = l.jumpOrPop test (start + first.length + 1 + second.length))
    (decided : ∀ value, test value = true → proceed value = pure value)
    (undecided : ∀ value, test value = false →
      proceed value = eval (interpreter setting run rounds place) right)
    (code : CodeAt full start (first ++ op :: second)) (here : At m site start stack s)
    (e : next = start + first.length + 1 + second.length) :
    Leads setting.env site.outer (fuel + 1) m
      (fun value s' m' => At m' site next (value :: stack) s')
      ((eval (interpreter setting run rounds place) left >>= proceed) s) := by
  apply Leads.bind (leads code.left here rfl)
  intro value s' m' there
  have jump_at := code.right rfl
  have jumps := executes m'.level
  rw [there.ip, Level.jumpOrPop, there.stack] at jumps
  cases holds : test value with
  | true =>
    rw [decided value holds]
    simp only [holds, if_true] at jumps
    refine Leads.mono (there.leads_next fits jump_at jumps ?_) (Nat.le_succ _)
    exact .pure { there with ip := e.symm }
  | false =>
    rw [undecided value holds]
    simp only [holds, Bool.false_eq_true, if_false] at jumps
    refine Leads.mono (there.leads_next fits jump_at jumps ?_) (Nat.le_succ _)
    exact leads' (jump_at.tail rfl) { there with ip := by rw [← there.ip]; rfl, stack := rfl } e

/-- The code of `and`: a false first value is the value of the whole. -/
theorem Evaluates.conj (fits : Fits site place full)
    (leads : Evaluates setting run site place full fuel rounds start left first)
    (leads' : Evaluates setting run site place full fuel rounds (start + first.length + 1) right second)
    (code : CodeAt full start
      (first ++ .jumpIfFalseOrPop (start + first.length + 1 + second.length) :: second))
    (here : At m site start stack s) (e : next = start + first.length + 1 + second.length) :
    Leads setting.env site.outer (fuel + 1) m
      (fun value s' m' => At m' site next (value :: stack) s')
      (eval (interpreter setting run rounds place) (.logic .and left right) s) := by
  refine Evaluates.logic fits leads leads' (fun _ => rfl) ?_ ?_ code here e
  · exact fun value falsy => if_neg (by simpa using falsy)
  · exact fun value truthy => if_pos (by simpa using truthy)

/-- The code of `or`: a true first value is the value of the whole. -/
theorem Evaluates.disj (fits : Fits site place full)
    (leads : Evaluates setting run site place full fuel rounds start left first)
    (leads' : Evaluates setting run site place full fuel rounds (start + first.length + 1) right second)
    (code : CodeAt full start
      (first ++ .jumpIfTrueOrPop (start + first.length + 1 + second.length) :: second))
    (here : At m site start stack s) (e : next = start + first.length + 1 + second.length) :
    Leads setting.env site.outer (fuel + 1) m
      (fun value s' m' => At m' site next (value :: stack) s')
      (eval (interpreter setting run rounds place) (.logic .or left right) s) := by
  refine Evaluates.logic fits leads leads' (fun _ => rfl) ?_ ?_ code here e
  · exact fun value truthy => if_pos truthy
  · exact fun value falsy => if_neg (by simp [falsy])

mutual

/-- Code of an expression does what evaluating the expression does. -/
theorem evaluates (simulates : Simulates setting fuel run) (fits : Fits site place full) :
    ∀ {start e ops}, ExprCode start e ops →
      Evaluates setting run site place full fuel rounds start e ops
  | _, _, _, .literal => fun code here e =>
    here.leads_yield [] fits code e (by rw [← here.stack]; rfl)
  | _, _, _, .list each => fun code here e => by
    refine Leads.bind (evaluatesList simulates fits each code.left here rfl) ?_
    rintro values s' m' ⟨size, there⟩
    refine there.leads_yield values.reverse fits (code.right rfl) ?_ ?_
    · simp [e, Nat.add_assoc]
    · rw [Op.resolved, Level.execute, ← size, Level.popMany_eq there.stack]
  | _, _, _, .var => fun code here e => here.leads_lookup fits code e
  | _, _, _, .attr inner => fun code here e =>
    Evaluates.unary fits (evaluates simulates fits inner)
      (fun l a stack taken => by simp [Op.resolved, Level.execute, Level.pop1, taken]) code here e
  | _, _, _, .index first second => fun code here e =>
    Evaluates.binary fits (evaluates simulates fits first) (evaluates simulates fits second)
      (fun l a b stack taken => by simp [Op.resolved, Level.execute, Level.pop2, Level.pop1, taken])
      code here e
  | _, _, _, .call callee each => fun code here e => by
    apply Leads.bind (evaluates simulates fits callee code.left here rfl)
    intro function s' m' there
    have code' := code.right rfl
    refine Leads.bind (evaluatesList simulates fits each code'.left there rfl) ?_
    rintro values s'' m'' ⟨size, there'⟩
    refine there'.leads_call simulates fits (size ▸ code'.right rfl) ?_
    simp only [e, List.length_append, List.length_singleton, Nat.add_assoc]
  | _, _, _, @ExprCode.filter _ operand name span f _ found inner => fun code here e => by
    have means : eval (interpreter setting run rounds place) (.filter operand name span)
        = (do
          let a ← eval (interpreter setting run rounds place) operand
          Action.ofFault (f.apply a)) := by
      simp only [eval, found]
    rw [means]
    exact Evaluates.unary fits (evaluates simulates fits inner)
      (fun l a stack taken => by simp [Op.resolved, Level.execute, Level.pop1, taken]) code here e
  | _, _, _, .neg inner => fun code here e =>
    Evaluates.unary fits (evaluates simulates fits inner)
      (fun l a stack taken => by simp [Op.resolved, Level.execute, Level.pop1, taken]) code here e
  | _, _, _, .not inner => fun code here e => by
    refine Evaluates.unary (f := fun a => .ok (.bool !a.isTruthy)) fits
      (evaluates simulates fits inner)
      (fun l a stack taken => ?_) code here e
    simp [Op.resolved, Level.execute, Level.pop1, taken, Level.finishWith]
  | _, _, _, .binary first second => fun code here e =>
    Evaluates.binary fits (evaluates simulates fits first) (evaluates simulates fits second)
      (fun l a b stack taken => by simp [Op.resolved, Level.execute, Level.pop2, Level.pop1, taken])
      code here e
  | _, _, _, .conj first second => fun code here e =>
    Evaluates.conj fits (evaluates simulates fits first) (evaluates simulates fits second) code here
      (by simp [e]; omega)
  | _, _, _, .disj first second => fun code here e =>
    Evaluates.disj fits (evaluates simulates fits first) (evaluates simulates fits second) code here
      (by simp [e]; omega)

theorem evaluatesList (simulates : Simulates setting fuel run) (fits : Fits site place full) :
    ∀ {start items ops}, ExprListCode start items ops →
      EvaluatesList setting run site place full fuel rounds start items ops
  | _, _, _, .nil => fun _ here e => .pure ⟨rfl, { here with ip := here.ip.trans e.symm }⟩
  | _, _, _, .cons first others => fun code here e => by
    apply Leads.bind (evaluates simulates fits first code.left here rfl)
    intro value s' m' there
    refine Leads.bind (evaluatesList simulates fits others (code.right rfl) there rfl) ?_
    rintro values s'' m'' ⟨size, there'⟩
    refine .pure ⟨congrArg (· + 1) size, ?_⟩
    rw [List.reverse_cons, List.append_assoc]
    exact { there' with ip := there'.ip.trans (by rw [e, List.length_append, Nat.add_assoc]) }

end

end Meaning
end TemplateEngine
