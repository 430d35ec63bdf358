import TemplateEngine.Proofs.Except
import TemplateEngine.Proofs.Template.Climbing
import TemplateEngine.Template.Expression

/-!
# The operators of expressions

An expression is read as a chain, and it is built like a tree of operators: the only tree
that is written like the chain and respects the table of operators. Reading the chain by
descent, with the strengths that the places in the table give, leads to the same tree.
-/

namespace TemplateEngine.Expression

open Reader Precedence

abbrev Lexeme := Precedence.Lexeme (Checked Expr) UnaryOp Suffix Infix

abbrev Operator := UnaryOp ⊕ Infix

/-- The operators that are as strong as each other, weakest first. Suffixes come last. -/
def table : List (List Operator) := [
  [.inr (.logic .or)],
  [.inr (.logic .and)],
  [.inl .not],
  [.inr (.binary .eq), .inr (.binary .ne), .inr (.binary .lt), .inr (.binary .le),
    .inr (.binary .gt), .inr (.binary .ge)],
  [.inr (.binary .concat)],
  [.inr (.binary .add), .inr (.binary .sub)],
  [.inr (.binary .mul), .inr (.binary .div), .inr (.binary .mod)],
  [.inl .neg]]

def strengthOf : Operator → Nat := Sum.elim strength.before strength.between

/-- The strength of suffixes. -/
def suffixStrength : Nat := 10 * (table.length + 1)

theorem mem_table (op : Operator) : ∃ row ∈ table, op ∈ row := by
  rcases op with op | op | op <;> cases op <;> simp [table]

/-- The strength of an operator is its place in the table. -/
theorem strengthOf_eq {place : Nat} {row : List Operator} {op : Operator}
    (found : table[place]? = some row) (member : op ∈ row) : strengthOf op = 10 * (place + 1) := by
  have all : ∀ i : Fin table.length, ∀ op ∈ table.get i, strengthOf op = 10 * (i + 1) := by decide
  obtain ⟨live, rfl⟩ := List.getElem?_eq_some_iff.mp found
  exact all ⟨place, live⟩ op member

theorem strength_below : strength.Below suffixStrength where
  distinct op op' := by
    rcases op' with op' | op' <;> cases op <;> cases op' <;> decide
  before op := by
    cases op <;> decide
  between op := by
    rcases op with op | op <;> cases op <;> decide

/-- A tree shows how an expression is made: a leaf is an operand as a whole, also one in
parentheses, and any operator or suffix is one node over the expressions that it is written
between or behind, in their order. -/
inductive Depicts : Tree → Expr → Prop
  | operand (e : Expr) : Depicts (.operand (.ok e)) e
  | before {t : Tree} {e : Expr} (op : UnaryOp) : Depicts t e → Depicts (.before op t) (.unary op e)
  | field {t : Tree} {e : Expr} (name : String) :
      Depicts t e → Depicts (.after t (.field name)) (.attr e name)
  | index {t : Tree} {e : Expr} (key : Expr) :
      Depicts t e → Depicts (.after t (.index (.ok key))) (.index e key)
  | call {t : Tree} {e : Expr} (args : List Expr) :
      Depicts t e → Depicts (.after t (.call (.ok args))) (.call e args)
  | filter {t : Tree} {e : Expr} (name : String) (span : Span) :
      Depicts t e → Depicts (.after t (.filter name span)) (.filter e name span)
  | binary {l r : Tree} {left right : Expr} (op : BinaryOp) : Depicts l left → Depicts r right →
      Depicts (.between (.binary op) l r) (.binary op left right)
  | logic {l r : Tree} {left right : Expr} (op : LogicOp) : Depicts l left → Depicts r right →
      Depicts (.between (.logic op) l r) (.logic op left right)

/-- In an operand or a suffix there is a number that does not fit. -/
inductive Faulty : Lexeme → Span × ParseFault → Prop
  | operand (fault : Span × ParseFault) : Faulty (.operand (.error fault)) fault
  | index (fault : Span × ParseFault) : Faulty (.after (.index (.error fault))) fault
  | call (fault : Span × ParseFault) : Faulty (.after (.call (.error fault))) fault

variable {t : Tree} {e : Expr} {fault : Span × ParseFault}

theorem ofTree_of_depicts (h : Depicts t e) : ofTree t = .ok e := by
  induction h with
  | operand e => rfl
  | before op _ ih | field name _ ih | filter name span _ ih => rw [ofTree, ih]; rfl
  | index key _ ih => exact both_eq_ok.mpr ⟨key, _, rfl, ih, rfl⟩
  | call args _ ih => exact both_eq_ok.mpr ⟨args, _, rfl, ih, rfl⟩
  | binary op _ _ left right | logic op _ _ left right =>
    exact both_eq_ok.mpr ⟨_, _, left, right, rfl⟩

/-- The expression of a tree is the one that the tree depicts. -/
theorem ofTree_eq_ok_iff : ofTree t = .ok e ↔ Depicts t e := by
  refine ⟨fun built => ?_, ofTree_of_depicts⟩
  induction t generalizing e with
  | operand a =>
    obtain rfl : a = .ok e := built
    exact .operand e
  | before op t ih =>
    obtain ⟨inner, below, ⟨⟩⟩ := bind_eq_ok.mp built
    exact .before op (ih below)
  | after t x ih =>
    cases x with
    | field name =>
      obtain ⟨inner, below, ⟨⟩⟩ := bind_eq_ok.mp built
      exact .field name (ih below)
    | index key =>
      obtain ⟨key, inner, rfl, below, rfl⟩ := both_eq_ok.mp built
      exact .index key (ih below)
    | call args =>
      obtain ⟨args, inner, rfl, below, rfl⟩ := both_eq_ok.mp built
      exact .call args (ih below)
    | filter name span =>
      obtain ⟨inner, below, ⟨⟩⟩ := bind_eq_ok.mp built
      exact .filter name span (ih below)
  | between op left right ihl ihr =>
    obtain ⟨first, second, before, behind, rfl⟩ := both_eq_ok.mp built
    cases op with
    | logic op => exact .logic op (ihl before) (ihr behind)
    | binary op => exact .binary op (ihl before) (ihr behind)

/-- The fault of a tree is that of one of its lexemes. -/
theorem faulty_of_ofTree (failed : ofTree t = .error fault) : ∃ l ∈ t.lexemes, Faulty l fault := by
  induction t with
  | operand a =>
    obtain rfl : a = .error fault := failed
    exact ⟨_, List.mem_singleton.mpr rfl, .operand fault⟩
  | before op t ih =>
    rcases bind_eq_error.mp failed with inside | ⟨_, _, ⟨⟩⟩
    obtain ⟨l, member, faulty⟩ := ih inside
    exact ⟨l, List.mem_cons_of_mem _ member, faulty⟩
  | after t x ih =>
    have last : Precedence.Lexeme.after x ∈ (Tree.after t x).lexemes :=
      List.mem_append_right _ (List.mem_singleton.mpr rfl)
    have earlier (inside : ofTree t = .error fault) : ∃ l ∈ (Tree.after t x).lexemes, Faulty l fault := by
      obtain ⟨l, member, faulty⟩ := ih inside
      exact ⟨l, List.mem_append_left _ member, faulty⟩
    cases x with
    | field name | filter name span =>
      rcases bind_eq_error.mp failed with inside | ⟨_, _, ⟨⟩⟩
      exact earlier inside
    | index key =>
      rcases error_of_both failed with rfl | inside
      · exact ⟨_, last, .index fault⟩
      · exact earlier inside
    | call args =>
      rcases error_of_both failed with rfl | inside
      · exact ⟨_, last, .call fault⟩
      · exact earlier inside
  | between op left right ihl ihr =>
    rcases error_of_both failed with inside | inside
    · obtain ⟨l, member, faulty⟩ := ihl inside
      exact ⟨l, List.mem_append_left _ member, faulty⟩
    · obtain ⟨l, member, faulty⟩ := ihr inside
      exact ⟨l, List.mem_append_right _ (List.mem_cons_of_mem _ member), faulty⟩

theorem Depicts.not_faulty (h : Depicts t e) : ∀ l ∈ t.lexemes, ¬ Faulty l fault := by
  induction h with
  | operand e => exact List.forall_mem_singleton.mpr nofun
  | before op _ ih => exact List.forall_mem_cons.mpr ⟨nofun, ih⟩
  | field _ _ ih | index _ _ ih | call _ _ ih | filter _ _ _ ih =>
    exact List.forall_mem_append.mpr ⟨ih, List.forall_mem_singleton.mpr nofun⟩
  | binary _ _ _ ihl ihr | logic _ _ _ ihl ihr =>
    exact List.forall_mem_append.mpr ⟨ihl, List.forall_mem_cons.mpr ⟨nofun, ihr⟩⟩

/-- A tree is that of a chain if it is written like the chain and respects the strengths. -/
theorem eq_tree_iff {c : Chain} :
    t = c.tree strength ↔ t.lexemes = c.lexemes ∧ t.Respects strength := by
  have respects := c.respects_tree strength_below.distinct
  constructor
  · rintro rfl
    exact ⟨c.lexemes_tree strength, respects⟩
  · rintro ⟨written, holds⟩
    exact Tree.eq_of_lexemes strength_below.distinct holds respects
      (written.trans (c.lexemes_tree strength).symm)

/-- What is built from a chain is the expression that its tree depicts. -/
theorem build_eq_ok_iff {c : Chain} :
    build c = .ok e ↔ ∃ t : Tree, t.lexemes = c.lexemes ∧ t.Respects strength ∧ Depicts t e := by
  constructor
  · intro built
    obtain ⟨written, respects⟩ := eq_tree_iff.mp (rfl : c.tree strength = c.tree strength)
    exact ⟨_, written, respects, ofTree_eq_ok_iff.mp built⟩
  · rintro ⟨t, written, respects, depicts⟩
    obtain rfl := eq_tree_iff.mpr ⟨written, respects⟩
    exact ofTree_of_depicts depicts

/-- Something is built from a chain if all numbers in its operands and suffixes fit. -/
theorem exists_build_iff {c : Chain} :
    (∃ e, build c = .ok e) ↔ ∀ l ∈ c.lexemes, ∀ fault, ¬ Faulty l fault := by
  rw [← c.lexemes_tree strength]
  constructor
  · rintro ⟨e, built⟩ l member fault
    exact (ofTree_eq_ok_iff.mp built).not_faulty l member
  · intro sound
    cases built : build c with
    | ok e => exact ⟨e, rfl⟩
    | error fault =>
      obtain ⟨l, member, faulty⟩ := faulty_of_ofTree built
      exact absurd faulty (sound l member fault)

/-- The strengths of the operators are their places in the table. Expressions are read as
chains. One tree is written like the chain and respects the strengths, and that is the tree
that is read by descent. What is built from the chain is the expression that this tree
depicts; and something is built unless a number inside of an operand or a suffix does not fit. -/
theorem operator_precedence :
    (∀ op, ∃ place row, table[place]? = some row ∧ op ∈ row ∧ strengthOf op = 10 * (place + 1)) ∧
    (∀ limit inner cursor, (body limit inner).read cursor =
      ((chain limit inner).read cursor).map fun read => (build read.1, read.2)) ∧
    ∀ c : Chain,
      (∃! t : Tree, t.lexemes = c.lexemes ∧ t.Respects strength) ∧
      (∀ t : Tree, Climbs strength suffixStrength 0 c.lexemes t [] ↔
        t.lexemes = c.lexemes ∧ t.Respects strength) ∧
      (∀ e, build c = .ok e ↔
        ∃ t : Tree, t.lexemes = c.lexemes ∧ t.Respects strength ∧ Depicts t e) ∧
      ((∃ e, build c = .ok e) ↔ ∀ l ∈ c.lexemes, ∀ fault, ¬ Faulty l fault) ∧
      ∀ fault, build c = .error fault → ∃ l ∈ c.lexemes, Faulty l fault := by
  refine ⟨?table, ?read, fun c => ⟨?unique, ?descent, fun e => build_eq_ok_iff, exists_build_iff,
    ?failed⟩⟩
  case table =>
    intro op
    obtain ⟨row, known, member⟩ := mem_table op
    obtain ⟨place, found⟩ := List.mem_iff_getElem?.mp known
    exact ⟨place, row, found, member, strengthOf_eq found member⟩
  case read =>
    intro limit inner cursor
    rw [body, read_rule, read_bind, Option.map_eq_bind]
    rfl
  case unique =>
    exact ⟨c.tree strength, eq_tree_iff.mp rfl, fun t holds => eq_tree_iff.mpr holds⟩
  case descent =>
    intro t
    rw [climbs_iff strength_below (by decide), eq_tree_iff]
  case failed =>
    intro fault failed
    rw [← c.lexemes_tree strength]
    exact faulty_of_ofTree failed

/-- `a ~ not b ~ c`: the prefix operator takes the rest, though it is weaker than `~`. -/
theorem operator_precedence_not :
    build ⟨⟨[], .ok (.var "a"), []⟩, [(.binary .concat, ⟨[.not], .ok (.var "b"), []⟩),
        (.binary .concat, ⟨[], .ok (.var "c"), []⟩)]⟩ =
      .ok (.binary .concat (.var "a")
        (.unary .not (.binary .concat (.var "b") (.var "c")))) := by
  apply ((operator_precedence.2.2 _).2.2.1 _).mpr
  refine ⟨.between (.binary .concat) (.operand (.ok (.var "a"))) (.before .not
    (.between (.binary .concat) (.operand (.ok (.var "b"))) (.operand (.ok (.var "c"))))), rfl, ?_, ?_⟩
  · simp [Precedence.Tree.Respects, Precedence.Tree.leftEdge, Precedence.Tree.rightEdge, strength]
  · exact .binary _ (.operand _) (.before _ (.binary _ (.operand _) (.operand _)))

end TemplateEngine.Expression
