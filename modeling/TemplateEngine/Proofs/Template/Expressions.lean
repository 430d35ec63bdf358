import TemplateEngine.Proofs.Template.Tokens

/-!
# Reading printed expressions

Each expression is read back up to its spans. It is printed between parentheses, so its
own text ends at a closing one, and it is a single term, or two around an operator, the
operands of which stand in parentheses again. What comes after the parentheses around it
must not go on with a suffix or an operator. The induction is on the expression; the
text of a part is shorter, so the bounds of the reader last.
-/

namespace TemplateEngine

open Reader Expression

/-- What was read is the expression, up to spans. -/
def Expr.Agrees (e : Expr) (found : Checked Expr) : Prop :=
  ∃ e', found = .ok e' ∧ e'.unspanned = e.unspanned

/-- An expression does not go on here. -/
structure Stops (text : List Char) : Prop where
  suffix : ∀ limit inner, (suffix limit inner).Fails text
  operator : infixOp.Fails text

theorem stops_paren (rest : List Char) : Stops (')' :: rest) := ⟨fun _ _ _ => rfl, fun _ => rfl⟩

theorem stops_bracket (rest : List Char) : Stops (']' :: rest) := ⟨fun _ _ _ => rfl, fun _ => rfl⟩

theorem stops_comma (rest : List Char) : Stops (',' :: rest) := ⟨fun _ _ _ => rfl, fun _ => rfl⟩

theorem stops_end (rest : List Char) : Stops ('%' :: ']' :: rest) := ⟨fun _ _ _ => rfl, fun _ => rfl⟩

theorem stops_with (rest : List Char) : Stops ("WITH ".toList ++ rest) :=
  ⟨fun _ _ _ => rfl, fun _ => rfl⟩

namespace Expression

variable {limit : Nat} {inner : Reader Rule (Checked Expr)} {text mid rest : List Char} {e : Expr}

theorem fails_continued (noSpace : skip mid = mid) (stops : Stops mid) :
    (continued limit inner).Fails mid := by
  apply fails_after_space
  rw [noSpace]
  exact stops.operator.bind

section

variable {A : Checked Expr → Prop} {O : List UnaryOp → Prop} {S : List Suffix → Prop}
  {T : Term → Prop}

theorem reads_term {mid' : List Char} (operators : (many limit (do space; unaryOp)).Reads text mid O)
    (operand : (operand limit inner).Reads (skip mid) mid' A)
    (suffixes : (many limit (do space; suffix limit inner)).Reads (skip mid') rest S) :
    (term limit inner).Reads text rest fun t => O t.operators ∧ A t.operand ∧ S t.suffixes := by
  refine operators.bind fun ops before => Reads.spaced ?_
  refine operand.bind fun a inside => Reads.spaced ?_
  exact suffixes.thenPure fun after there => ⟨before, inside, there⟩

/-- A term that is nothing but its operand. -/
theorem reads_term_of_operand (noOperator : unaryOp.Fails (skip text))
    (operand : (operand limit inner).Reads (skip text) mid A)
    (noSuffix : (suffix limit inner).Fails (skip mid)) :
    (term limit inner).Reads text (skip mid) fun t => ∃ a, t = ⟨[], a, []⟩ ∧ A a := by
  have suffixes : (suffix limit inner).Fails (skip (skip mid)) := by rwa [skip_skip]
  refine (reads_term (reads_many_nil (fails_after_space noOperator)) operand
    (reads_many_nil (fails_after_space suffixes))).imp ?_
  rintro ⟨_, a, _⟩ ⟨rfl, inside, rfl⟩
  exact ⟨a, rfl, inside⟩

/-- An expression without infix operators. -/
theorem reads_body_of_term (first : (term limit inner).Reads text mid T) (noSpace : skip mid = mid)
    (stops : Stops mid) : (body limit inner).Reads text mid fun found =>
      ∃ t, found = build ⟨t, []⟩ ∧ T t := by
  have chained : (chain limit inner).Reads text mid fun c => ∃ t, c = ⟨t, []⟩ ∧ T t := by
    refine first.bind fun t there => Reads.spaced ?_
    rw [noSpace]
    refine (reads_many_nil (fails_continued noSpace stops)).thenPure ?_
    rintro _ rfl
    exact ⟨t, rfl, there⟩
  refine Reads.rule _ (chained.thenPure ?_)
  rintro _ ⟨t, rfl, there⟩
  exact ⟨t, rfl, there⟩

end

theorem parens_append (text rest : List Char) :
    Printer.parens text ++ rest = '(' :: (text ++ ')' :: rest) := by
  simp [Printer.parens]

theorem skip_parens (text rest : List Char) :
    skip (Printer.parens text ++ rest) = Printer.parens text ++ rest := rfl

/-- The expression is read back up to the parenthesis after it. -/
def Inside (inner : Reader Rule (Checked Expr)) (e : Expr) : Prop :=
  ∀ rest, inner.Reads (skip (Printer.expr e ++ ')' :: rest)) (')' :: rest) e.Agrees

/-- The expression is read back with the parentheses around it. -/
def Whole (inner : Reader Rule (Checked Expr)) (e : Expr) : Prop :=
  ∀ rest, Stops (skip rest) →
    inner.Reads (Printer.parens (Printer.expr e) ++ rest) (skip rest) e.Agrees

theorem reads_operand_parens (limit : Nat) (h : Inside inner e) (rest : List Char) :
    (operand limit inner).Reads (Printer.parens (Printer.expr e) ++ rest) rest e.Agrees := by
  rw [parens_append]
  iterate 8 refine .later (fun _ => rfl) ?_
  refine .first ((reads_exact ['('] _).bind fun _ _ => Reads.spaced ?_)
  refine (h rest).bind fun found agrees => Reads.spaced ?_
  exact (reads_exact [')'] rest).bind fun _ _ => .pure agrees

theorem reads_term_parens (h : Inside inner e) (noSuffix : (suffix limit inner).Fails (skip rest)) :
    (term limit inner).Reads (Printer.parens (Printer.expr e) ++ rest) (skip rest)
      fun t => ∃ a, t = ⟨[], a, []⟩ ∧ e.Agrees a := by
  have operand := reads_operand_parens limit h rest
  rw [← skip_parens] at operand
  exact reads_term_of_operand (fun _ => rfl) operand noSuffix

/-- What is an operand is an expression. -/
theorem reads_body_of_operand (noOperator : unaryOp.Fails (skip text))
    (operand : (operand limit inner).Reads (skip text) mid e.Agrees) (stops : Stops (skip mid)) :
    (body limit inner).Reads text (skip mid) e.Agrees := by
  have first := reads_term_of_operand noOperator operand (stops.suffix limit inner)
  refine (reads_body_of_term first (skip_skip mid) stops).imp ?_
  rintro _ ⟨_, rfl, a, rfl, agrees⟩
  exact agrees

theorem whole_of_inside {depth : Nat} (h : Inside (reader limit depth) e) :
    Whole (reader limit (depth + 1)) e := by
  intro rest stops
  have operand := reads_operand_parens limit h rest
  rw [← skip_parens] at operand
  exact reads_body_of_operand (fun _ => rfl) operand stops

/-- Nothing is read where no expression starts. -/
theorem fails_reader {depth : Nat} (noOperator : unaryOp.Fails (skip text))
    (noOperand : ∀ inner, (operand limit inner).Fails (skip text)) :
    (reader limit depth).Fails text := by
  cases depth with
  | zero => exact fun _ => rfl
  | succ depth =>
    have term : (term limit (reader limit depth)).Fails text := by
      refine (reads_many_nil (fails_after_space noOperator)).bind_fails fun _ _ => ?_
      exact (reads_space text).bind_fails fun _ _ => (noOperand _).bind
    have chain : (chain limit (reader limit depth)).Fails text := term.bind
    exact chain.bind

theorem inside_of_operand (noOperator : ∀ rest, unaryOp.Fails (skip (Printer.expr e ++ ')' :: rest)))
    (operand : ∀ rest, (operand limit inner).Reads (skip (Printer.expr e ++ ')' :: rest))
      (')' :: rest) e.Agrees) : Inside (body limit inner) e := by
  intro rest
  have noOperator := noOperator rest
  have operand := operand rest
  rw [← skip_skip] at noOperator operand
  exact reads_body_of_operand noOperator operand (stops_paren rest)

theorem fails_unaryOp (run : IsRun Token.isWordChar text) (ends : Ends Token.isWordChar rest)
    (other : text ≠ "not".toList) : unaryOp.Fails (text ++ rest) := by
  have minus : (exact ['-'] : Reader Rule Unit).Fails (text ++ rest) :=
    fails_exact (run.ne_of_word rfl)
  have minus : (sign .negOp "-").Fails (text ++ rest) := minus.rule .negOp
  have mark : (exact ['!'] : Reader Rule Unit).Fails (text ++ rest) :=
    fails_exact (run.ne_of_word rfl)
  have word : (Token.word .kwNot "not").Fails (text ++ rest) := Token.fails_word run ends other
  exact .either minus.bind (Fails.rule _ (.either mark.bind word)).bind

theorem isDigit_isWordChar {c : Char} (h : c.isDigit = true) : Token.isWordChar c = true := by
  simp [Token.isWordChar, Char.isAlphanum, h]

theorem inside_int {i : Int64} (h : 0 ≤ i) : Inside (body limit inner) (.literal (.int i)) := by
  have digits : IsRun Char.isDigit (Nat.toDigits 10 i.toNatClampNeg) := by
    refine ⟨Nat.toDigits_ne_nil, ?_⟩
    intro c member
    exact Nat.isDigit_of_mem_toDigits (by decide) (by decide) member
  have word : IsRun Token.isWordChar (Nat.toDigits 10 i.toNatClampNeg) :=
    ⟨digits.nonempty, fun c member => isDigit_isWordChar (digits.chars c member)⟩
  have value : decimalValue (Nat.toDigits 10 i.toNatClampNeg) = i.toNatClampNeg := by
    have read := @Nat.ofDigitChars_toDigits 10 i.toNatClampNeg (by decide) (by decide)
    rw [Nat.ofDigitChars] at read
    simpa only [decimalValue, Nat.mul_comm] using read
  have small : i.toNatClampNeg < Nat.pow 2 63 := by
    have bound := i.toInt_lt
    rw [← Int64.toNat_toInt]
    have same : Nat.pow 2 63 = 9223372036854775808 := rfl
    omega
  refine inside_of_operand ?_ ?_ <;> intro rest <;> rw [Printer.expr, Printer.literal, word.skip_word]
  · apply fails_unaryOp word (ends_cons rfl)
    intro same
    have letter := digits.chars 'n' (by rw [same]; decide)
    cases letter
  · refine .later (Token.fails_float_of_int digits (ends_cons rfl)).bind (.first ?_)
    refine (Token.reads_int digits (ends_cons rfl)).spanned.thenPure ?_
    rintro ⟨_, span⟩ rfl
    refine ⟨.literal (.int i), ?_, rfl⟩
    simp only [value, small, if_true, Int64.ofNat_toNatClampNeg i h]

theorem inside_string (s : String) : Inside (body limit inner) (.literal (.str s)) := by
  have text (rest : List Char) : Printer.expr (.literal (.str s)) ++ ')' :: rest
      = '"' :: (Printer.escape s.toList ++ '"' :: ')' :: rest) := by
    simp [Printer.expr, Printer.literal]
  refine inside_of_operand ?_ ?_ <;> intro rest <;> rw [text]
  · exact fun _ => rfl
  · iterate 2 refine .later (fun _ => rfl) ?_
    refine .first ((Token.reads_string s _).thenPure ?_)
    rintro _ rfl
    exact ⟨_, rfl, rfl⟩

theorem inside_literal {l : Literal} (h : l.Printable) : Inside (body limit inner) (.literal l) := by
  cases l with
  | undef => exact inside_of_operand (fun _ _ => rfl) fun _ o => ⟨_, o + 5, rfl, _, rfl, rfl⟩
  | bool b =>
    cases b with
    | true => exact inside_of_operand (fun _ _ => rfl) fun _ o => ⟨_, o + 4, rfl, _, rfl, rfl⟩
    | false => exact inside_of_operand (fun _ _ => rfl) fun _ o => ⟨_, o + 5, rfl, _, rfl, rfl⟩
  | int i => exact inside_int h
  | float x => cases h
  | str s => exact inside_string s

theorem inside_var {name : String} (h : IsIdentifier name) : Inside (body limit inner) (.var name) := by
  have run := h.isRun
  have ends (rest : List Char) : Ends Token.isWordChar (')' :: rest) := ends_cons rfl
  refine inside_of_operand ?_ ?_ <;> intro rest <;> rw [Printer.expr, run.skip_word]
  · exact fails_unaryOp run (ends rest) (h.ne (by decide))
  · refine .later (Token.fails_float (h.not_isDigit _)).bind ?_
    refine .later (Token.fails_int (h.not_isDigit _)).spanned.bind ?_
    refine .later (Token.fails_string ?_).bind ?_
    · exact fun c known => ⟨run.ne_of_word rfl c known, run.ne_of_word rfl c known⟩
    refine .later (Token.fails_word run (ends rest) (h.ne (by decide))).bind ?_
    refine .later (Token.fails_word run (ends rest) (h.ne (by decide))).bind ?_
    refine .later (Token.fails_word run (ends rest) (h.ne (by decide))).bind ?_
    refine .later (fails_exact (run.ne_of_word rfl)).bind (.first ?_)
    refine (Token.reads_identifier h (ends rest)).thenPure ?_
    rintro _ rfl
    exact ⟨_, rfl, rfl⟩

/-- What was read are the expressions, up to spans. -/
def AgreesAll (items : List Expr) (found : Checked (List Expr)) : Prop :=
  ∃ items', found = .ok items' ∧ Expr.unspannedAll items' = Expr.unspannedAll items

theorem agreesAll_sequence {items : List Expr} {found : List (Checked Expr)}
    (all : List.Forall₂ Expr.Agrees items found) : AgreesAll items (sequence found) := by
  induction all with
  | nil => exact ⟨[], rfl, rfl⟩
  | cons first _ ih =>
    obtain ⟨e', rfl, same⟩ := first
    obtain ⟨items', eq, others⟩ := ih
    refine ⟨e' :: items', ?_, ?_⟩
    · rw [sequence, eq]
      rfl
    · rw [Expr.unspannedAll, Expr.unspannedAll, same, others]

theorem exprs_eq_map (items : List Expr) :
    Printer.exprs items = items.map fun e => Printer.parens (Printer.expr e) := by
  induction items with
  | nil => rfl
  | cons e items ih => rw [Printer.exprs, List.map_cons, ih]

/-- Expressions between commas in front of a closing bracket. -/
theorem reads_items {depth : Nat} {items : List Expr} {close : Char}
    (closes : close = ')' ∨ close = ']') (fits : items.length ≤ limit + 1)
    (each : ∀ e ∈ items, Whole (reader limit depth) e) (rest : List Char) :
    (listed limit (reader limit depth)).Reads
      (skip (Printer.commas (Printer.exprs items) ++ close :: rest)) (close :: rest) fun found => AgreesAll items (sequence found) := by
  rw [exprs_eq_map]
  have start : skip (close :: rest) = close :: rest := by
    rcases closes with rfl | rfl <;> rfl
  have stops : Stops (skip (close :: rest)) := by
    rw [start]
    rcases closes with rfl | rfl
    · exact stops_paren rest
    · exact stops_bracket rest
  have fails : (reader limit depth).Fails (skip (close :: rest)) := by
    rw [start]
    rcases closes with rfl | rfl <;> exact fails_reader (fun _ => rfl) fun _ _ => rfl
  have ends : (exact [','] : Reader Rule Unit).Fails (skip (close :: rest)) := by
    rw [start]
    rcases closes with rfl | rfl <;> exact fun _ => rfl
  have read := reads_listed (fun text => Stops (skip text)) stops_comma stops fits fails ends
    fun e member text stops => by
      rw [skip_parens]
      exact each e member text stops
  rw [start] at read
  exact read.imp fun found all => agreesAll_sequence all

theorem inside_list {depth : Nat} {items : List Expr} (fits : items.length ≤ limit + 1)
    (each : ∀ e ∈ items, Whole (reader limit depth) e) :
    Inside (body limit (reader limit depth)) (.list items) := by
  have text (rest : List Char) : Printer.expr (.list items) ++ ')' :: rest
      = '[' :: (Printer.commas (Printer.exprs items) ++ ']' :: ')' :: rest) := by
    simp [Printer.expr]
  refine inside_of_operand ?_ ?_ <;> intro rest <;> rw [text]
  · exact fun _ => rfl
  · iterate 6 refine .later (fun _ => rfl) ?_
    refine .first (Reads.rule _ ((reads_exact ['['] _).bind fun _ _ => Reads.spaced ?_))
    refine (reads_items (.inr rfl) fits each _).bind ?_
    rintro found ⟨items', eq, same⟩
    refine Reads.spaced ((reads_exact [']'] _).bind fun _ _ => .pure ?_)
    exact ⟨.list items', by rw [eq]; rfl, by rw [Expr.unspanned, same]; rfl⟩

/-- The text of the operand in parentheses and of a suffix of it. -/
theorem reads_suffixed {S : Suffix → Prop} (h : Inside inner e) (some : 0 < limit)
    (reads : (suffix limit inner).Reads (skip text) (')' :: rest) S) :
    (body limit inner).Reads (Printer.parens (Printer.expr e) ++ text) (')' :: rest)
      fun found => ∃ a s, found = ofTree (.after (.operand a) s) ∧ e.Agrees a ∧ S s := by
  obtain ⟨n, rfl⟩ := Nat.exists_eq_add_one.mpr some
  have operand := reads_operand_parens (n + 1) h text
  have noMore : (do space; suffix (n + 1) inner : Reader Rule Suffix).Fails (')' :: rest) :=
    fails_after_space fun _ => rfl
  have suffixes : (many (n + 1) (do space; suffix (n + 1) inner)).Reads (skip text) (')' :: rest)
      fun found => ∃ s, found = [s] ∧ S s := by
    have one : (do space; suffix (n + 1) inner : Reader Rule Suffix).Reads (skip text)
        (')' :: rest) S := by
      apply Reads.spaced
      rwa [skip_skip]
    refine (one.many_cons (reads_many_nil noMore)).imp ?_
    rintro _ ⟨s, _, rfl, holds, rfl⟩
    exact ⟨s, rfl, holds⟩
  rw [parens_append] at operand ⊢
  have none : (many (n + 1) (do space; unaryOp)).Reads ('(' :: (Printer.expr e ++ ')' :: text))
      ('(' :: (Printer.expr e ++ ')' :: text)) fun found => found = [] :=
    reads_many_nil (fails_after_space fun _ => rfl)
  have term := reads_term none operand suffixes
  refine (reads_body_of_term term rfl (stops_paren rest)).imp ?_
  rintro _ ⟨⟨_, a, _⟩, rfl, rfl, agrees, s, rfl, holds⟩
  exact ⟨a, s, rfl, agrees, holds⟩

/-- An expression that is printed as an operand in parentheses with a suffix. -/
theorem inside_suffixed {operand e : Expr} {tail : List Char} {S : Suffix → Prop}
    (printed : Printer.expr e = Printer.parens (Printer.expr operand) ++ tail)
    (h : Inside inner operand) (some : 0 < limit)
    (reads : ∀ rest, (suffix limit inner).Reads (skip (tail ++ ')' :: rest)) (')' :: rest) S)
    (makes : ∀ a s, operand.Agrees a → S s → e.Agrees (ofTree (.after (.operand a) s))) :
    Inside (body limit inner) e := by
  intro rest
  rw [printed, List.append_assoc, skip_parens]
  refine (reads_suffixed h some (reads rest)).imp ?_
  rintro _ ⟨a, s, rfl, agrees, holds⟩
  exact makes a s agrees holds

theorem inside_attr {field : String} (h : Inside inner e) (some : 0 < limit)
    (plain : IsFieldName field) : Inside (body limit inner) (.attr e field) := by
  refine inside_suffixed (S := fun s => s = .field field) rfl h some ?_ ?_
  · intro rest
    change Reads _ (['.'] ++ (field.toList ++ ')' :: rest)) _ _
    refine .first (Reads.rule _ ((reads_exact _ _).bind fun _ _ => Reads.spaced ?_))
    rw [plain.isRun.skip_word]
    refine (Token.reads_fieldName plain (ends_cons rfl)).thenPure ?_
    rintro _ rfl
    rfl
  · rintro _ _ ⟨e', rfl, same⟩ rfl
    exact ⟨.attr e' field, rfl, by rw [Expr.unspanned, same, Expr.unspanned]⟩

theorem inside_index {key : Expr} (h : Inside inner e) (some : 0 < limit) (inside : Whole inner key) :
    Inside (body limit inner) (.index e key) := by
  have printed : Printer.expr (.index e key) = Printer.parens (Printer.expr e)
      ++ '[' :: (Printer.parens (Printer.expr key) ++ [']']) := by simp [Printer.expr]
  refine inside_suffixed (S := fun s => ∃ k, s = .index k ∧ key.Agrees k) printed h some ?_ ?_
  · intro rest
    rw [List.cons_append, List.append_assoc]
    change Reads _ (['['] ++ (Printer.parens (Printer.expr key) ++ ']' :: ')' :: rest)) _ _
    refine .later (fun _ => rfl) (.first (Reads.rule _ ?_))
    refine (reads_exact _ _).bind fun _ _ => ?_
    apply Reads.spaced
    rw [skip_parens]
    refine (inside (']' :: ')' :: rest) (stops_bracket _)).bind fun k agrees => Reads.spaced ?_
    exact (reads_exact [']'] _).bind fun _ _ => .pure ⟨k, rfl, agrees⟩
  · rintro _ _ ⟨e', rfl, same⟩ ⟨_, rfl, k', rfl, same'⟩
    exact ⟨.index e' k', rfl, by rw [Expr.unspanned, same, same', Expr.unspanned]⟩

theorem inside_call {depth : Nat} {args : List Expr} (h : Inside (reader limit depth) e)
    (some : 0 < limit) (fits : args.length ≤ limit + 1)
    (each : ∀ arg ∈ args, Whole (reader limit depth) arg) :
    Inside (body limit (reader limit depth)) (.call e args) := by
  have printed : Printer.expr (.call e args) = Printer.parens (Printer.expr e)
      ++ '(' :: (Printer.commas (Printer.exprs args) ++ [')']) := by simp [Printer.expr]
  refine inside_suffixed (S := fun s => ∃ found, s = .call found ∧ AgreesAll args found) printed h
    some ?_ ?_
  · intro rest
    rw [List.cons_append, List.append_assoc]
    iterate 2 refine .later (fun _ => rfl) ?_
    refine .first (Reads.rule _ ?_)
    refine (reads_exact ['('] _).bind fun _ _ => Reads.spaced ?_
    refine (reads_items (.inl rfl) fits each _).bind fun found agrees => Reads.spaced ?_
    exact (reads_exact [')'] _).bind fun _ _ => .pure ⟨_, rfl, agrees⟩
  · rintro _ _ ⟨e', rfl, same⟩ ⟨_, rfl, args', rfl, same'⟩
    exact ⟨.call e' args', rfl, by rw [Expr.unspanned, same, same', Expr.unspanned]⟩

theorem inside_filter {name : String} {span : Span} (h : Inside inner e) (some : 0 < limit)
    (known : IsIdentifier name) : Inside (body limit inner) (.filter e name span) := by
  refine inside_suffixed (S := fun s => ∃ span, s = .filter name span) rfl h some ?_ ?_
  · intro rest
    change Reads _ (['|'] ++ (name.toList ++ ')' :: rest)) _ _
    iterate 3 refine .later (fun _ => rfl) ?_
    have word := known.isRun
    have single : ¬ ['|'] <+: name.toList ++ ')' :: rest := by
      rintro ⟨others, eq⟩
      have first : '|' ∈ (name.toList ++ ')' :: rest).head? := by
        rw [← eq]
        rfl
      exact word.ne_of_word (show Token.isWordChar '|' = false from rfl) '|' first rfl
    refine .first ((Reads.spanned (P := fun found => found = name) ?_).thenPure ?_)
    · refine Reads.rule _ ((reads_exact _ _).bind fun _ _ => Reads.spaced ?_)
      rw [word.skip_word]
      refine (reads_absent single).bind fun _ _ => Reads.spaced ?_
      rw [word.skip_word]
      exact Token.reads_identifier known (ends_cons rfl)
    · rintro ⟨_, span'⟩ rfl
      exact ⟨span', rfl⟩
  · rintro _ _ ⟨e', rfl, same⟩ ⟨span', rfl⟩
    exact ⟨.filter e' name span', rfl, by rw [Expr.unspanned, same, Expr.unspanned]⟩

theorem inside_unary {op : UnaryOp} (h : Inside inner e) (some : 0 < limit) :
    Inside (body limit inner) (.unary op e) := by
  intro rest
  obtain ⟨n, rfl⟩ := Nat.exists_eq_add_one.mpr some
  have operand := reads_operand_parens (n + 1) h (')' :: rest)
  rw [Printer.expr, List.cons_append, parens_append]
  rw [parens_append] at operand
  generalize Printer.expr e ++ ')' :: ')' :: rest = text at operand ⊢
  have sign : (do space; unaryOp : Reader Rule UnaryOp).Reads
      (skip (Printer.unarySign op :: '(' :: text)) ('(' :: text) fun found => found = op := by
    cases op with
    | neg => exact fun o => ⟨.neg, o + 1, rfl, rfl⟩
    | not => exact fun o => ⟨.not, o + 1, rfl, rfl⟩
  have noMore : (do space; unaryOp : Reader Rule UnaryOp).Fails ('(' :: text) :=
    fails_after_space fun _ => rfl
  have noSuffix : (do space; suffix (n + 1) inner : Reader Rule Suffix).Fails (')' :: rest) :=
    fails_after_space fun _ => rfl
  have term := reads_term (sign.many_cons (reads_many_nil noMore)) operand (reads_many_nil noSuffix)
  refine (reads_body_of_term term rfl (stops_paren rest)).imp ?_
  rintro _ ⟨⟨_, a, _⟩, rfl, ⟨found, _, rfl, one, rfl⟩, ⟨e', rfl, same⟩, rfl⟩
  exact ⟨.unary found e', rfl, by rw [one, Expr.unspanned, same, Expr.unspanned]⟩

/-- The symbol is read as the operator, and an operand does not go on with it. -/
structure Spells (op : Infix) (symbol : String) : Prop where
  noSuffix : ∀ limit inner text, (suffix limit inner).Fails (symbol.toList ++ ' ' :: text)
  noSpace : ∀ text, skip (symbol.toList ++ text) = symbol.toList ++ text
  reads : ∀ text, ∃ mid, skip mid = '(' :: text ∧
    infixOp.Reads (symbol.toList ++ ' ' :: '(' :: text) mid fun found => found = op

theorem spells_binary (op : BinaryOp) : Spells (.binary op) op.symbol where
  noSuffix := by cases op <;> exact fun _ _ _ _ => rfl
  noSpace := by cases op <;> exact fun _ => rfl
  reads := by
    intro text
    -- The blank after `%` is read with it, to see that the tag does not end there.
    cases op with
    | mod => exact ⟨'(' :: text, rfl, fun _ => ⟨_, _, rfl, rfl⟩⟩
    | _ => exact ⟨' ' :: '(' :: text, rfl, fun _ => ⟨_, _, rfl, rfl⟩⟩

theorem spells_logic (op : LogicOp) : Spells (.logic op) (Printer.logicSymbol op) where
  noSuffix := by cases op <;> exact fun _ _ _ _ => rfl
  noSpace := by cases op <;> exact fun _ => rfl
  reads := by
    intro text
    refine ⟨' ' :: '(' :: text, rfl, ?_⟩
    cases op <;> exact fun _ => ⟨_, _, rfl, rfl⟩

section

variable {left right : Expr} {op : Infix} {symbol : String}

theorem reads_continued (spells : Spells op symbol) (h : Inside inner right) (rest : List Char) :
    (continued limit inner).Reads
      (symbol.toList ++ ' ' :: (Printer.parens (Printer.expr right) ++ ')' :: rest)) (')' :: rest)
      fun found => ∃ b, found = (op, ⟨[], b, []⟩) ∧ right.Agrees b := by
  have operand : (term limit inner).Reads (Printer.parens (Printer.expr right) ++ ')' :: rest)
      (')' :: rest) fun t => ∃ b, t = ⟨[], b, []⟩ ∧ right.Agrees b :=
    reads_term_parens h fun _ => rfl
  rw [parens_append] at operand ⊢
  obtain ⟨mid, left, read⟩ := spells.reads (Printer.expr right ++ ')' :: ')' :: rest)
  apply Reads.spaced
  rw [spells.noSpace]
  refine read.bind ?_
  rintro _ rfl
  apply Reads.spaced
  rw [left]
  refine operand.bind ?_
  rintro _ ⟨b, rfl, agrees⟩
  exact .pure ⟨b, rfl, agrees⟩

/-- Two operands with an operator between them. -/
theorem inside_infixed (spells : Spells op symbol)
    (printed : Printer.expr e = Printer.infixed symbol (Printer.parens (Printer.expr left))
      (Printer.parens (Printer.expr right)))
    (h : Inside inner left) (h' : Inside inner right) (some : 0 < limit)
    (makes : ∀ a b, left.Agrees a → right.Agrees b →
      e.Agrees (ofTree (.between op (.operand a) (.operand b)))) :
    Inside (body limit inner) e := by
  intro rest
  obtain ⟨n, rfl⟩ := Nat.exists_eq_add_one.mpr some
  have text : Printer.expr e ++ ')' :: rest = Printer.parens (Printer.expr left) ++ ' ' ::
      (symbol.toList ++ ' ' :: (Printer.parens (Printer.expr right) ++ ')' :: rest)) := by
    simp [printed, Printer.infixed]
  have next : (continued (n + 1) inner).Reads _ _ _ := reads_continued spells h' rest
  have start := spells.noSpace (' ' :: (Printer.parens (Printer.expr right) ++ ')' :: rest))
  have noSuffix := spells.noSuffix (n + 1) inner (Printer.parens (Printer.expr right) ++ ')' :: rest)
  rw [text, skip_parens]
  generalize symbol.toList ++ ' ' :: (Printer.parens (Printer.expr right) ++ ')' :: rest) = second
    at next start noSuffix ⊢
  have first : (term (n + 1) inner).Reads (Printer.parens (Printer.expr left) ++ ' ' :: second)
      second fun t => ∃ a, t = ⟨[], a, []⟩ ∧ left.Agrees a := by
    have read : (term (n + 1) inner).Reads _ (skip (' ' :: second)) _ :=
      reads_term_parens h (by rwa [skip_space, start])
    rwa [skip_space, start] at read
  have noMore : (continued (n + 1) inner).Fails (')' :: rest) :=
    fails_continued rfl (stops_paren rest)
  have chained : (chain (n + 1) inner).Reads (Printer.parens (Printer.expr left) ++ ' ' :: second)
      (')' :: rest) fun c => ∃ a b,
        c = ⟨⟨[], a, []⟩, [(op, ⟨[], b, []⟩)]⟩ ∧ left.Agrees a ∧ right.Agrees b := by
    refine first.bind ?_
    rintro _ ⟨a, rfl, agrees⟩
    apply Reads.spaced
    rw [start]
    refine (next.many_cons (reads_many_nil noMore)).thenPure ?_
    rintro _ ⟨_, _, rfl, ⟨b, rfl, agrees'⟩, rfl⟩
    exact ⟨a, b, rfl, agrees, agrees'⟩
  refine Reads.rule _ (chained.thenPure ?_)
  rintro _ ⟨a, b, rfl, agrees, agrees'⟩
  exact makes a b agrees agrees'

theorem inside_binary {op : BinaryOp} (h : Inside inner left) (h' : Inside inner right)
    (some : 0 < limit) : Inside (body limit inner) (.binary op left right) := by
  refine inside_infixed (spells_binary op) rfl h h' some ?_
  rintro _ _ ⟨left', rfl, same⟩ ⟨right', rfl, same'⟩
  exact ⟨.binary op left' right', rfl, by rw [Expr.unspanned, same, same', Expr.unspanned]⟩

theorem inside_logic {op : LogicOp} (h : Inside inner left) (h' : Inside inner right)
    (some : 0 < limit) : Inside (body limit inner) (.logic op left right) := by
  refine inside_infixed (spells_logic op) rfl h h' some ?_
  rintro _ _ ⟨left', rfl, same⟩ ⟨right', rfl, same'⟩
  exact ⟨.logic op left' right', rfl, by rw [Expr.unspanned, same, same', Expr.unspanned]⟩

end

/-- The expression is read back if the bounds of the reader are no less than its text. -/
def Recovers (limit : Nat) (e : Expr) : Prop :=
  ∀ depth, depth ≤ limit → (Printer.expr e).length ≤ depth → Inside (reader limit (depth + 1)) e

theorem length_parens (text : List Char) : (Printer.parens text).length = text.length + 2 := by
  simp [Printer.parens]

section

variable {depth : Nat}

theorem Recovers.inside (h : Recovers limit e) (deep : depth ≤ limit)
    (fits : (Printer.parens (Printer.expr e)).length ≤ depth) : Inside (reader limit depth) e := by
  rw [length_parens] at fits
  obtain ⟨d, rfl⟩ : ∃ d, depth = d + 1 := Nat.exists_eq_add_one.mpr (by omega)
  exact h d (by omega) (by omega)

theorem Recovers.whole (h : Recovers limit e) (deep : depth ≤ limit)
    (fits : (Printer.parens (Printer.expr e)).length ≤ depth) : Whole (reader limit depth) e := by
  rw [length_parens] at fits
  obtain ⟨d, rfl⟩ : ∃ d, depth = d + 2 := ⟨depth - 2, by omega⟩
  exact whole_of_inside (h d (by omega) (by omega))

theorem length_exprs (items : List Expr) : (Printer.exprs items).length = items.length := by
  rw [exprs_eq_map, List.length_map]

theorem length_le_exprs {items : List Expr} (member : e ∈ items) :
    (Printer.parens (Printer.expr e)).length ≤ (Printer.commas (Printer.exprs items)).length := by
  rw [exprs_eq_map]
  exact length_le_commas (List.mem_map_of_mem member)

end

mutual

theorem recovers : ∀ e : Expr, e.Printable → Recovers limit e
  | .literal l => fun plain _ _ _ => inside_literal plain
  | .list items => fun plain depth deep fits => by
    simp only [Printer.expr, List.length_append, List.length_cons, List.length_nil] at fits
    have count := length_commas (Printer.exprs items)
    rw [length_exprs] at count
    refine inside_list (by omega) fun e member => ?_
    have part := length_le_exprs member
    exact (recoversAll items plain e member).whole deep (by omega)
  | .var name => fun plain _ _ _ => inside_var plain
  | .attr object field => fun plain depth deep fits => by
    simp only [Printer.expr, List.length_append, List.length_cons] at fits
    exact inside_attr ((recovers object plain.1).inside deep (by omega)) (by omega) plain.2
  | .index collection key => fun plain depth deep fits => by
    simp only [Printer.expr, List.length_append, List.length_cons] at fits
    exact inside_index ((recovers collection plain.1).inside deep (by omega)) (by omega)
      ((recovers key plain.2).whole deep (by omega))
  | .call function args => fun plain depth deep fits => by
    simp only [Printer.expr, List.length_append, List.length_cons] at fits
    have count := length_commas (Printer.exprs args)
    rw [length_exprs] at count
    refine inside_call ((recovers function plain.1).inside deep (by omega)) (by omega) (by omega)
      fun e member => ?_
    have part := length_le_exprs member
    exact (recoversAll args plain.2 e member).whole deep (by omega)
  | .filter operand name span => fun plain depth deep fits => by
    simp only [Printer.expr, List.length_append, List.length_cons] at fits
    exact inside_filter ((recovers operand plain.1).inside deep (by omega)) (by omega) plain.2
  | .unary op operand => fun plain depth deep fits => by
    simp only [Printer.expr, List.length_cons] at fits
    exact inside_unary ((recovers operand plain).inside deep (by omega)) (by omega)
  | .binary op left right => fun plain depth deep fits => by
    simp only [Printer.expr, Printer.infixed, List.length_append, List.length_cons] at fits
    exact inside_binary ((recovers left plain.1).inside deep (by omega))
      ((recovers right plain.2).inside deep (by omega)) (by omega)
  | .logic op left right => fun plain depth deep fits => by
    simp only [Printer.expr, Printer.infixed, List.length_append, List.length_cons] at fits
    exact inside_logic ((recovers left plain.1).inside deep (by omega))
      ((recovers right plain.2).inside deep (by omega)) (by omega)

theorem recoversAll : ∀ items : List Expr, Expr.PrintableAll items → ∀ e ∈ items, Recovers limit e
  | [] => fun _ _ member => absurd member List.not_mem_nil
  | first :: rest => fun plain e member => by
    rcases List.mem_cons.mp member with same | member
    · rw [same]
      exact recovers first plain.1
    · exact recoversAll rest plain.2 e member

end

end Expression

/-- An expression in a tag is read back up to its spans. -/
theorem Piece.reads_expression {limit : Nat} {e : Expr} (plain : e.Printable)
    (fits : (Printer.parens (Printer.expr e)).length ≤ limit) (rest : List Char)
    (stops : Stops (skip rest)) :
    (Piece.expression limit).Reads (Printer.parens (Printer.expr e) ++ rest) (skip rest) e.Agrees :=
  (Expression.recovers e plain).whole (Nat.le_refl limit) fits rest stops

end TemplateEngine
