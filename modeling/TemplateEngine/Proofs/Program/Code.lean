import TemplateEngine.Program.Compile
import TemplateEngine.Proofs.Except

/-!
# The shape of compiled code

What the compiler makes of each construct, as relations between a start, a tree
and its code. All later arguments about code are inductions on these relations,
so that only this module looks into the compiler.
-/

namespace TemplateEngine

mutual

/-- `ExprCode start e ops`: the code of `e` from `start` on is `ops`. -/
inductive ExprCode : Nat → Expr → List SourceOp → Prop
  | literal {start l} : ExprCode start (.literal l) [.constLoad l]
  | list {start items each} : ExprListCode start items each →
      ExprCode start (.list items) (each ++ [.makeList items.length])
  | var {start name} : ExprCode start (.var name) [.loadVar name]
  | attr {start object field inner} : ExprCode start object inner →
      ExprCode start (.attr object field) (inner ++ [.fieldName field])
  | index {start collection key first second} : ExprCode start collection first →
      ExprCode (start + first.length) key second →
      ExprCode start (.index collection key) (first ++ (second ++ [.index]))
  | call {start function args callee each} : ExprCode start function callee →
      ExprListCode (start + callee.length) args each →
      ExprCode start (.call function args) (callee ++ (each ++ [.macroCall args.length]))
  | filter {start operand name span f inner} : Filter.ofName? name = some f →
      ExprCode start operand inner →
      ExprCode start (.filter operand name span) (inner ++ [.filter f])
  | neg {start operand inner} : ExprCode start operand inner →
      ExprCode start (.unary .neg operand) (inner ++ [.neg])
  | not {start operand inner} : ExprCode start operand inner →
      ExprCode start (.unary .not operand) (inner ++ [.not])
  | binary {start op left right first second} : ExprCode start left first →
      ExprCode (start + first.length) right second →
      ExprCode start (.binary op left right) (first ++ (second ++ [.binOp op]))
  | conj {start left right first second} : ExprCode start left first →
      ExprCode (start + first.length + 1) right second →
      ExprCode start (.logic .and left right)
        (first ++ .jumpIfFalseOrPop (start + first.length + 1 + second.length) :: second)
  | disj {start left right first second} : ExprCode start left first →
      ExprCode (start + first.length + 1) right second →
      ExprCode start (.logic .or left right)
        (first ++ .jumpIfTrueOrPop (start + first.length + 1 + second.length) :: second)

inductive ExprListCode : Nat → List Expr → List SourceOp → Prop
  | nil {start} : ExprListCode start [] []
  | cons {start e rest first others} : ExprCode start e first →
      ExprListCode (start + first.length) rest others →
      ExprListCode start (e :: rest) (first ++ others)

end

inductive ArgsCode : Nat → List (String × Expr) → List SourceOp → Prop
  | nil {start} : ArgsCode start [] []
  | cons {start key e rest first others} : ExprCode (start + 1) e first →
      ArgsCode (start + 1 + first.length) rest others →
      ArgsCode start ((key, e) :: rest) (.constLoad (.str key) :: (first ++ others))

/-- A branch with its condition, and the alternatives after it. -/
abbrev branchCode (start : Nat) (cond inner others : List SourceOp) : List SourceOp :=
  cond ++ .popJumpIfFalse (start + cond.length + 1 + inner.length + 1)
    :: (inner ++ .jump (start + cond.length + 1 + inner.length + 1 + others.length) :: others)

mutual

inductive NodeCode (options : CompileOptions) : Nat → Node → List SourceOp → Prop
  | noText {start} : NodeCode options start (.text "") []
  | text {start s} : s ≠ "" → NodeCode options start (.text s) [.constLoad (.str s), .print .raw]
  | print {start e value} : ExprCode start e value →
      NodeCode options start (.print e) (value ++ [.print (Node.printMode options)])
  | branch {start test body rest cond inner others} : ExprCode start test cond →
      BodyCode options (start + cond.length + 1) body inner →
      RestCode options (start + cond.length + 1 + inner.length + 1) rest others →
      NodeCode options start (.branch test body rest) (branchCode start cond inner others)
  | foreach {start var iterable body items inner} : ExprCode start iterable items →
      BodyCode options (start + items.length + 2) body inner →
      NodeCode options start (.foreach var iterable body)
        (items ++ .forStart :: .forIter var (start + items.length + 2 + inner.length + 1)
          :: (inner ++ [.jump (start + items.length + 1)]))
  | loop {start test body cond inner} : ExprCode start test cond →
      BodyCode options (start + cond.length + 1) body inner →
      NodeCode options start (.loop test body)
        (cond ++ .popJumpIfFalse (start + cond.length + 1 + inner.length + 1)
          :: (inner ++ [.jump start]))
  | assign {start name value inner} : ExprCode start value inner →
      NodeCode options start (.assign name value) (inner ++ [.storeVar name])
  | define {start name params body inner} : BodyCode options (start + 3) body inner →
      NodeCode options start (.define name params body)
        (.makeMacro ⟨name, params.map Prod.fst, start + 3⟩ :: .storeVar name
          :: .jump (start + 3 + inner.length + 1) :: (inner ++ [.macroReturn]))
  | inclusion {start template args name entries} : ExprCode start template name →
      ArgsCode (start + name.length) args entries →
      NodeCode options start (.inclusion template args)
        (name ++ (entries ++ [.makeMap args.length, .inclusion]))

inductive RestCode (options : CompileOptions) : Nat → Alternatives → List SourceOp → Prop
  | done {start} : RestCode options start .done []
  | otherwise {start body inner} : BodyCode options start body inner →
      RestCode options start (.otherwise body) inner
  | elsif {start test body rest cond inner others} : ExprCode start test cond →
      BodyCode options (start + cond.length + 1) body inner →
      RestCode options (start + cond.length + 1 + inner.length + 1) rest others →
      RestCode options start (.elsif test body rest) (branchCode start cond inner others)

inductive BodyCode (options : CompileOptions) : Nat → List Node → List SourceOp → Prop
  | nil {start} : BodyCode options start [] []
  | cons {start node rest first others} : NodeCode options start node first →
      BodyCode options (start + first.length) rest others →
      BodyCode options start (node :: rest) (first ++ others)

end

mutual

theorem exprCode_of_code : ∀ (e : Expr) {start : Nat} {ops : List SourceOp},
    e.code start = .ok ops → ExprCode start e ops
  | .literal l, start, ops, h => by
    cases h
    exact .literal
  | .list items, start, ops, h => by
    obtain ⟨each, h₁, h⟩ := bind_eq_ok.mp h
    cases h
    exact .list (exprListCode_of_code items h₁)
  | .var name, start, ops, h => by
    cases h
    exact .var
  | .attr object field, start, ops, h => by
    obtain ⟨inner, h₁, h⟩ := bind_eq_ok.mp h
    cases h
    exact .attr (exprCode_of_code object h₁)
  | .index collection key, start, ops, h => by
    obtain ⟨first, h₁, h⟩ := bind_eq_ok.mp h
    obtain ⟨second, h₂, h⟩ := bind_eq_ok.mp h
    cases h
    rw [List.append_assoc]
    exact .index (exprCode_of_code collection h₁) (exprCode_of_code key h₂)
  | .call function args, start, ops, h => by
    obtain ⟨callee, h₁, h⟩ := bind_eq_ok.mp h
    obtain ⟨each, h₂, h⟩ := bind_eq_ok.mp h
    cases h
    rw [List.append_assoc]
    exact .call (exprCode_of_code function h₁) (exprListCode_of_code args h₂)
  | .filter operand name span, start, ops, h => by
    rw [Expr.code] at h
    split at h
    case h_1 => cases h
    case h_2 f found =>
      obtain ⟨inner, h₁, h⟩ := bind_eq_ok.mp h
      cases h
      exact .filter found (exprCode_of_code operand h₁)
  | .unary .neg operand, start, ops, h => by
    obtain ⟨inner, h₁, h⟩ := bind_eq_ok.mp h
    cases h
    exact .neg (exprCode_of_code operand h₁)
  | .unary .not operand, start, ops, h => by
    obtain ⟨inner, h₁, h⟩ := bind_eq_ok.mp h
    cases h
    exact .not (exprCode_of_code operand h₁)
  | .binary op left right, start, ops, h => by
    obtain ⟨first, h₁, h⟩ := bind_eq_ok.mp h
    obtain ⟨second, h₂, h⟩ := bind_eq_ok.mp h
    cases h
    rw [List.append_assoc]
    exact .binary (exprCode_of_code left h₁) (exprCode_of_code right h₂)
  | .logic .and left right, start, ops, h => by
    obtain ⟨first, h₁, h⟩ := bind_eq_ok.mp h
    obtain ⟨second, h₂, h⟩ := bind_eq_ok.mp h
    cases h
    exact .conj (exprCode_of_code left h₁) (exprCode_of_code right h₂)
  | .logic .or left right, start, ops, h => by
    obtain ⟨first, h₁, h⟩ := bind_eq_ok.mp h
    obtain ⟨second, h₂, h⟩ := bind_eq_ok.mp h
    cases h
    exact .disj (exprCode_of_code left h₁) (exprCode_of_code right h₂)

theorem exprListCode_of_code : ∀ (items : List Expr) {start : Nat} {ops : List SourceOp},
    Expr.codeList start items = .ok ops → ExprListCode start items ops
  | [], start, ops, h => by
    cases h
    exact .nil
  | e :: rest, start, ops, h => by
    obtain ⟨first, h₁, h⟩ := bind_eq_ok.mp h
    obtain ⟨others, h₂, h⟩ := bind_eq_ok.mp h
    cases h
    exact .cons (exprCode_of_code e h₁) (exprListCode_of_code rest h₂)

end

theorem argsCode_of_code {args : List (String × Expr)} {start : Nat} {ops : List SourceOp}
    (h : Expr.codeArgs start args = .ok ops) : ArgsCode start args ops := by
  induction args generalizing start ops with
  | nil =>
    cases h
    exact .nil
  | cons arg rest ih =>
    obtain ⟨first, h₁, h⟩ := bind_eq_ok.mp h
    obtain ⟨others, h₂, h⟩ := bind_eq_ok.mp h
    cases h
    exact .cons (exprCode_of_code arg.2 h₁) (ih h₂)

namespace Node

variable {options : CompileOptions}

mutual

theorem nodeCode_of_code : ∀ (node : Node) {start : Nat} {ops : List SourceOp},
    node.code options start = .ok ops → NodeCode options start node ops
  | .text s, start, ops, h => by
    cases h
    by_cases empty : s = ""
    · rw [if_pos empty, empty]
      exact .noText
    · rw [if_neg empty]
      exact .text empty
  | .print e, start, ops, h => by
    obtain ⟨value, h₁, h⟩ := bind_eq_ok.mp h
    cases h
    exact .print (exprCode_of_code e h₁)
  | .branch test body rest, start, ops, h => by
    obtain ⟨cond, h₁, h⟩ := bind_eq_ok.mp h
    obtain ⟨inner, h₂, h⟩ := bind_eq_ok.mp h
    obtain ⟨others, h₃, h⟩ := bind_eq_ok.mp h
    cases h
    rw [joinBranch, List.append_assoc, List.cons_append]
    exact .branch (exprCode_of_code test h₁) (bodyCode_of_code body h₂) (restCode_of_code rest h₃)
  | .foreach var iterable body, start, ops, h => by
    obtain ⟨items, h₁, h⟩ := bind_eq_ok.mp h
    obtain ⟨inner, h₂, h⟩ := bind_eq_ok.mp h
    cases h
    rw [List.append_assoc]
    exact .foreach (exprCode_of_code iterable h₁) (bodyCode_of_code body h₂)
  | .loop test body, start, ops, h => by
    obtain ⟨cond, h₁, h⟩ := bind_eq_ok.mp h
    obtain ⟨inner, h₂, h⟩ := bind_eq_ok.mp h
    cases h
    rw [List.append_assoc]
    exact .loop (exprCode_of_code test h₁) (bodyCode_of_code body h₂)
  | .assign name value, start, ops, h => by
    obtain ⟨inner, h₁, h⟩ := bind_eq_ok.mp h
    cases h
    exact .assign (exprCode_of_code value h₁)
  | .define name params body, start, ops, h => by
    rw [code] at h
    split at h
    · cases h
    · obtain ⟨inner, h₁, h⟩ := bind_eq_ok.mp h
      cases h
      exact .define (bodyCode_of_code body h₁)
  | .inclusion template args, start, ops, h => by
    obtain ⟨name, h₁, h⟩ := bind_eq_ok.mp h
    obtain ⟨entries, h₂, h⟩ := bind_eq_ok.mp h
    cases h
    rw [List.append_assoc]
    exact .inclusion (exprCode_of_code template h₁) (argsCode_of_code h₂)

theorem restCode_of_code : ∀ (rest : Alternatives) {start : Nat} {ops : List SourceOp},
    codeRest options start rest = .ok ops → RestCode options start rest ops
  | .done, start, ops, h => by
    cases h
    exact .done
  | .otherwise body, start, ops, h => .otherwise (bodyCode_of_code body h)
  | .elsif test body rest, start, ops, h => by
    obtain ⟨cond, h₁, h⟩ := bind_eq_ok.mp h
    obtain ⟨inner, h₂, h⟩ := bind_eq_ok.mp h
    obtain ⟨others, h₃, h⟩ := bind_eq_ok.mp h
    cases h
    rw [joinBranch, List.append_assoc, List.cons_append]
    exact .elsif (exprCode_of_code test h₁) (bodyCode_of_code body h₂) (restCode_of_code rest h₃)

theorem bodyCode_of_code : ∀ (body : List Node) {start : Nat} {ops : List SourceOp},
    codeList options start body = .ok ops → BodyCode options start body ops
  | [], start, ops, h => by
    cases h
    exact .nil
  | node :: rest, start, ops, h => by
    obtain ⟨first, h₁, h⟩ := bind_eq_ok.mp h
    obtain ⟨others, h₂, h⟩ := bind_eq_ok.mp h
    cases h
    exact .cons (nodeCode_of_code node h₁) (bodyCode_of_code rest h₂)

end

end Node

/-- The code of a whole template is the code of its body and an end. -/
theorem Template.codeList_of_compile {options : CompileOptions} {source : String} {t : Template}
    {p : Program} (h : t.compile options source = .ok p) :
    ∃ ops, Node.codeList options 0 t.body = .ok ops ∧ p = .ofOps t.name (ops ++ [.finish]) := by
  unfold compile at h
  split at h
  case h_1 ops compiled =>
    cases h
    exact ⟨ops, compiled, rfl⟩
  case h_2 => cases h

theorem Template.code_of_compile {options : CompileOptions} {source : String} {t : Template}
    {p : Program} (h : t.compile options source = .ok p) :
    ∃ ops, BodyCode options 0 t.body ops ∧ p = .ofOps t.name (ops ++ [.finish]) := by
  obtain ⟨ops, compiled, laid⟩ := codeList_of_compile h
  exact ⟨ops, Node.bodyCode_of_code t.body compiled, laid⟩

end TemplateEngine
