import TemplateEngine.Proofs.Template.Respects
import TemplateEngine.Proofs.Template.Spans
import TemplateEngine.Proofs.Template.Tiles

/-!
# Spans are taken where a reader is

A reader that moves forward in a source stands at boundaries of it, so what it takes there
has a span that fits. All spans in a part of the grammar are taken in this way, and so are
those of its faults. What reading ensures follows the way in which a reader is put together.
-/

namespace TemplateEngine

/-- The cursor has moved forward from the start of the source. -/
def Cursor.Within (source : String) (c : Cursor) : Prop :=
  ∃ front, source.toList = front ++ c.rest ∧ c.offset = utf8Length front

/-- Whatever the reader makes of a part of the source has the property. -/
def Reader.Ensures {ρ α : Type} (source : String) (p : Reader ρ α) (P : α → Prop) : Prop :=
  ∀ c a d, c.Within source → p.read c = some (a, d) → P a

variable {source : String}

namespace Cursor

variable {c d : Cursor} {taken : List Char} {place : Nat}

theorem within_ofString (source : String) : (ofString source).Within source := ⟨[], rfl, rfl⟩

theorem Within.takes (h : c.Within source) (front : c.Takes taken d) : d.Within source := by
  obtain ⟨before, split, place⟩ := h
  refine ⟨before ++ taken, ?_, ?_⟩
  · rw [split, front.rest, List.append_assoc]
  · rw [front.offset, place, utf8Length_append]

theorem Within.isBoundary (h : c.Within source) : IsBoundary source c.offset := by
  obtain ⟨front, split, place⟩ := h
  exact isBoundary_iff.mpr ⟨front, c.rest, split, place⟩

theorem Within.isBoundary_of_ahead (h : c.Within source) (ahead : c.Ahead place) :
    IsBoundary source place := by
  obtain ⟨taken, d, front, rfl⟩ := ahead
  exact (h.takes front).isBoundary

theorem Within.fits (h : c.Within source) (front : c.Takes taken d) :
    (⟨c.offset, d.offset⟩ : Span).Fits source := by
  obtain ⟨before, split, place⟩ := h
  rw [front.rest, ← List.append_assoc] at split
  rw [front.offset, place, ← utf8Length_append]
  exact Span.fits_of_append split

end Cursor

namespace Reader.Ensures

variable {ρ α β : Type} {p q : Reader ρ α} {next : α → Reader ρ β} {P : α → Prop} {Q : β → Prop}
  {limit : Nat}

theorem pure {a : α} (h : P a) : (pure a : Reader ρ α).Ensures source P := by
  rintro c _ _ - ⟨⟩
  exact h

theorem bind [Advances p] (h : p.Ensures source P) (later : ∀ a, P a → (next a).Ensures source Q) :
    (p >>= next).Ensures source Q := by
  intro c b d here read
  obtain ⟨a, c', first, second⟩ := read_bind_eq_some read
  obtain ⟨taken, front⟩ := Advances.takes first
  exact later a (h _ _ _ here first) _ _ _ (here.takes front) second

/-- A part of which nothing has to be known. -/
theorem skip [Advances p] (later : ∀ a, (next a).Ensures source Q) :
    (p >>= next).Ensures source Q :=
  bind (P := fun _ => True) (fun _ _ _ _ _ => trivial) fun a _ => later a

theorem either (h : p.Ensures source P) (h' : q.Ensures source P) :
    (either p q).Ensures source P := by
  intro c a d here read
  simp only [Reader.either] at read
  split at read
  case h_1 => exact h' _ _ _ here read
  case h_2 r first =>
    cases read
    exact h _ _ _ here first

theorem firstOf {ps : List (Reader ρ α)} (h : ∀ p ∈ ps, p.Ensures source P) :
    (firstOf ps).Ensures source P := by
  induction ps with
  | nil => exact fun _ _ _ _ => nofun
  | cons p rest ih =>
    obtain ⟨first, others⟩ := List.forall_mem_cons.mp h
    cases rest with
    | nil => exact first
    | cons => exact either first (ih others)

theorem optional (h : p.Ensures source P) :
    (optional p).Ensures source fun found => ∀ a ∈ found, P a := by
  intro c found d here read
  simp only [Reader.optional] at read
  split at read
  case h_1 =>
    cases read
    exact nofun
  case h_2 a c' first =>
    cases read
    rintro _ ⟨⟩
    exact h _ _ _ here first

theorem readMany [Advances p] (h : p.Ensures source P) {c : Cursor} (here : c.Within source) :
    ∀ a ∈ (readMany p.read limit c).1, P a := by
  induction limit generalizing c with
  | zero => exact List.forall_mem_nil P
  | succ limit ih =>
    rw [Reader.readMany]
    cases first : p.read c with
    | none => exact List.forall_mem_nil P
    | some r =>
      obtain ⟨taken, front⟩ := Advances.takes first
      exact List.forall_mem_cons.mpr ⟨h _ _ _ here first, ih (here.takes front)⟩

theorem many [Advances p] (h : p.Ensures source P) :
    (many limit p).Ensures source fun found => ∀ a ∈ found, P a := by
  intro c found d here read
  have all : ∀ a ∈ (Reader.readMany p.read limit c).1, P a := h.readMany here
  rw [Option.some.inj read] at all
  exact all

theorem rule {r : ρ} (h : p.Ensures source P) : (rule r p).Ensures source P := h

theorem spanned [Advances p] (h : p.Ensures source P) :
    (spanned p).Ensures source fun found => P found.1 ∧ found.2.Fits source := by
  intro c found d here read
  simp only [Reader.spanned] at read
  split at read
  case h_1 => cases read
  case h_2 a c' first =>
    cases read
    obtain ⟨taken, front⟩ := Advances.takes first
    exact ⟨h _ _ _ here first, here.fits front⟩

theorem separated [Advances p] (h : p.Ensures source P) :
    (separated limit p).Ensures source fun found => ∀ a ∈ found, P a := by
  have item : (do space; exact [',']; space; p : Reader ρ α).Ensures source P :=
    skip fun _ => skip fun _ => skip fun _ => h
  unfold Reader.separated
  refine bind h fun first holds => skip fun _ => bind (many item) fun rest all => ?_
  exact pure (List.forall_mem_cons.mpr ⟨holds, all⟩)

theorem listed [Advances p] (h : p.Ensures source P) :
    (listed limit p).Ensures source fun found => ∀ a ∈ found, P a := by
  unfold Reader.listed
  refine bind (optional (separated h)) fun found all => pure ?_
  cases found with
  | none => exact nofun
  | some items => exact all items rfl

end Reader.Ensures

/-- The span of a fault has the property, and a part without a fault has the other one. -/
def Checked.Fits {α : Type} (S : Span → Prop) (P : α → Prop) : Checked α → Prop
  | .ok a => P a
  | .error fault => S fault.1

namespace Checked.Fits

variable {α β : Type} {S : Span → Prop} {P : α → Prop} {Q : β → Prop}

theorem bind {x : Checked α} {f : α → Checked β} (h : Checked.Fits S P x)
    (later : ∀ a, P a → Checked.Fits S Q (f a)) : Checked.Fits S Q (x >>= f) := by
  cases x with
  | ok a => exact later a h
  | error fault => exact h

theorem map {x : Checked α} {f : α → β} (h : Checked.Fits S P x) (later : ∀ a, P a → Q (f a)) :
    Checked.Fits S Q (x.map f) := by
  cases x with
  | ok a => exact later a h
  | error fault => exact h

end Checked.Fits

variable {S : Span → Prop}

/-- All spans of the expression, or that of the fault, have the property. -/
abbrev Checked.ExprFits (S : Span → Prop) (e : Checked Expr) : Prop :=
  Checked.Fits S (fun e => ∀ span ∈ e.spans, S span) e

namespace Expression

open Reader

theorem fits_sequence {items : List (Checked Expr)} (h : ∀ e ∈ items, Checked.ExprFits S e) :
    Checked.Fits S (fun items => ∀ span ∈ Expr.spansOfItems items, S span) (sequence items) := by
  induction items with
  | nil => exact nofun
  | cons e rest ih =>
    obtain ⟨first, others⟩ := List.forall_mem_cons.mp h
    refine first.bind fun e fits => (ih others).bind fun items all => ?_
    exact List.forall_mem_append.mpr ⟨fits, all⟩

/-- The spans of a suffix have the property. -/
def Suffix.Fits (S : Span → Prop) : Suffix → Prop
  | .field _ => True
  | .index key => Checked.ExprFits S key
  | .call args => Checked.Fits S (fun args => ∀ span ∈ Expr.spansOfItems args, S span) args
  | .filter _ span => S span

/-- The spans of an operand or a suffix have the property. -/
def LexemeFits (S : Span → Prop) : Precedence.Lexeme (Checked Expr) UnaryOp Suffix Infix → Prop
  | .operand e => Checked.ExprFits S e
  | .after x => x.Fits S
  | .before _ | .between _ => True

/-- An expression has the spans of the operands and suffixes that it is made of. -/
theorem fits_ofTree {t : Tree} (h : ∀ l ∈ t.lexemes, LexemeFits S l) :
    Checked.ExprFits S (ofTree t) := by
  induction t with
  | operand e => exact h _ (List.mem_singleton.mpr rfl)
  | before op t ih =>
    have inner := ih fun l member => h l (List.mem_cons_of_mem _ member)
    exact inner.bind fun e fits => by cases op <;> exact fits
  | after t x ih =>
    have inner := ih fun l member => h l (List.mem_append_left _ member)
    have last : x.Fits S := h (.after x) (List.mem_append_right _ (List.mem_singleton.mpr rfl))
    cases x with
    | field name => exact inner.bind fun e fits => fits
    | index key =>
      refine Checked.Fits.bind last fun key fits => inner.bind fun e fits' => ?_
      exact List.forall_mem_append.mpr ⟨fits', fits⟩
    | call args =>
      refine Checked.Fits.bind last fun args fits => inner.bind fun e fits' => ?_
      exact List.forall_mem_append.mpr ⟨fits', fits⟩
    | filter name span =>
      refine inner.bind fun e fits => ?_
      exact List.forall_mem_cons.mpr ⟨last, fits⟩
  | between op left right ihl ihr =>
    have first := ihl fun l member => h l (List.mem_append_left _ member)
    have second := ihr fun l member => h l (List.mem_append_right _ (List.mem_cons_of_mem _ member))
    refine first.bind fun l fits => second.bind fun r fits' => ?_
    have both : ∀ span ∈ l.spans ++ r.spans, S span := List.forall_mem_append.mpr ⟨fits, fits'⟩
    cases op <;> exact both

/-- The spans of a term have the property. -/
def TermFits (S : Span → Prop) (t : Term) : Prop :=
  Checked.ExprFits S t.operand ∧ ∀ x ∈ t.suffixes, x.Fits S

theorem TermFits.lexemes {t : Term} (h : TermFits S t) : ∀ l ∈ t.lexemes, LexemeFits S l := by
  rw [Precedence.Term.lexemes]
  refine List.forall_mem_append.mpr ⟨?_, List.forall_mem_cons.mpr ⟨h.1, ?_⟩⟩
  · exact List.forall_mem_map.mpr fun _ _ => trivial
  · exact List.forall_mem_map.mpr h.2

/-- The spans of a chain have the property. -/
def ChainFits (S : Span → Prop) (c : Chain) : Prop :=
  TermFits S c.first ∧ ∀ next ∈ c.rest, TermFits S next.2

theorem ChainFits.lexemes {c : Chain} (h : ChainFits S c) : ∀ l ∈ c.lexemes, LexemeFits S l := by
  rw [Precedence.Chain.lexemes]
  refine List.forall_mem_append.mpr ⟨h.1.lexemes, List.forall_mem_flatMap.mpr fun next member => ?_⟩
  exact List.forall_mem_cons.mpr ⟨trivial, (h.2 next member).lexemes⟩

theorem fits_build {c : Chain} (h : ChainFits S c) : Checked.ExprFits S (build c) := by
  apply fits_ofTree
  rw [Precedence.Chain.lexemes_tree]
  exact h.lexemes

theorem ensures_intLiteral : intLiteral.Ensures source (Checked.ExprFits (Span.Fits source)) := by
  unfold intLiteral
  refine .bind (.spanned (P := fun _ => True) fun _ _ _ _ _ => trivial) fun found fits => .pure ?_
  split
  · exact nofun
  · exact fits.2

variable {limit : Nat} {inner : Reader Rule (Checked Expr)} [Advances inner]
  (h : inner.Ensures source (Checked.ExprFits (Span.Fits source)))

include h

theorem ensures_suffix : (suffix limit inner).Ensures source (Suffix.Fits (Span.Fits source)) := by
  unfold suffix
  apply Ensures.firstOf
  simp only [List.forall_mem_cons]
  refine ⟨?field, ?index, ?call, ?filter, nofun⟩
  case field => exact .rule (.skip fun _ => .skip fun _ => .skip fun _ => .pure trivial)
  case index =>
    refine .rule (.skip fun _ => .skip fun _ => .bind h fun key fits => ?_)
    exact .skip fun _ => .skip fun _ => .pure fits
  case call =>
    refine .rule (.skip fun _ => .skip fun _ => .bind (.listed h) fun args all => ?_)
    exact .skip fun _ => .skip fun _ => .pure (fits_sequence all)
  case filter =>
    refine .bind (.spanned (P := fun _ => True) fun _ _ _ _ _ => trivial) fun found fits => ?_
    exact .pure fits.2

theorem ensures_listLiteral :
    (listLiteral limit inner).Ensures source (Checked.ExprFits (Span.Fits source)) := by
  unfold listLiteral
  refine .rule (.skip fun _ => .skip fun _ => .bind (.listed h) fun items all => ?_)
  exact .skip fun _ => .skip fun _ => .pure ((fits_sequence all).map fun _ fits => fits)

theorem ensures_grouped :
    (grouped inner).Ensures source (Checked.ExprFits (Span.Fits source)) := by
  unfold grouped
  refine .skip fun _ => .skip fun _ => .bind h fun e fits => ?_
  exact .skip fun _ => .skip fun _ => .pure fits

theorem ensures_operand :
    (operand limit inner).Ensures source (Checked.ExprFits (Span.Fits source)) := by
  have constant (r : Rule) (text : String) (l : Literal) :
      (constantWord r text l).Ensures source (Checked.ExprFits (Span.Fits source)) :=
    .skip fun _ => .pure nofun
  unfold operand
  apply Ensures.firstOf
  simp only [List.forall_mem_cons]
  refine ⟨?float, ensures_intLiteral, ?string, constant _ _ _, constant _ _ _, constant _ _ _,
    ensures_listLiteral h, ?name, ensures_grouped h, nofun⟩
  case float | string | name => exact .skip fun _ => .pure nofun

theorem ensures_term : (term limit inner).Ensures source (TermFits (Span.Fits source)) := by
  unfold term
  refine .skip fun _ => .skip fun _ => .bind (ensures_operand h) fun e fits => .skip fun _ => ?_
  refine .bind (.many (.skip fun _ => ensures_suffix h)) fun suffixes all => ?_
  exact .pure ⟨fits, all⟩

theorem ensures_chain : (chain limit inner).Ensures source (ChainFits (Span.Fits source)) := by
  have next : (continued limit inner).Ensures source fun next =>
      TermFits (Span.Fits source) next.2 := by
    refine .skip fun _ => .skip fun op => .skip fun _ => .bind (ensures_term h) fun next fits => ?_
    exact .pure fits
  unfold chain
  refine .bind (ensures_term h) fun first fits => .skip fun _ => ?_
  exact .bind (.many next) fun rest all => .pure ⟨fits, all⟩

theorem ensures_body : (body limit inner).Ensures source (Checked.ExprFits (Span.Fits source)) :=
  .rule (.bind (ensures_chain h) fun _ fits => .pure (fits_build fits))

omit h in
theorem ensures_reader (limit depth : Nat) :
    (reader limit depth).Ensures source (Checked.ExprFits (Span.Fits source)) := by
  induction depth with
  | zero => exact fun _ _ _ _ => nofun
  | succ depth ih => exact ensures_body ih

end Expression

/-- The spans of a tag have the property. -/
def Tag.Fits (S : Span → Prop) : Tag → Prop
  | .print e | .assign _ e | .ifTag e | .unlessTag e | .elsifTag e | .foreachTag _ e
  | .whileTag e => Checked.ExprFits S e
  | .inclusion template args =>
    Checked.ExprFits S template ∧ ∀ arg ∈ args, Checked.ExprFits S arg.2
  | .macroTag _ params => ∀ param ∈ params, S param.2
  | .elseTag | .endTag => True

/-- The spans of a piece have the property. -/
def PieceKind.Fits (S : Span → Prop) : PieceKind → Prop
  | .text _ | .comment => True
  | .tag t => t.Fits S

namespace Piece

open Reader

instance : Advances text := advances_token _ fun h => by
  obtain ⟨taken, front, -⟩ := writes_text h
  exact ⟨taken, front⟩

instance : Advances comment := advances_token _ fun h => by
  obtain ⟨taken, front, -⟩ := writes_comment h
  exact ⟨taken, front⟩

variable (limit : Nat)

instance : Advances (tag limit) := by unfold tag; infer_instance

instance : Advances (one limit) := by unfold one; infer_instance

theorem ensures_expression :
    (expression limit).Ensures source (Checked.ExprFits (Span.Fits source)) :=
  Expression.ensures_reader limit limit

theorem ensures_testTag (r kw : Rule) (text : String) {make : Checked Expr → Tag}
    (h : ∀ e, Checked.ExprFits (Span.Fits source) e → (make e).Fits (Span.Fits source)) :
    (testTag limit r kw text make).Ensures source (Tag.Fits (Span.Fits source)) := by
  unfold testTag
  refine .rule (.skip fun _ => .skip fun _ => ?_)
  exact .bind (ensures_expression limit) fun e fits => .pure (h e fits)

theorem ensures_macroTag : (macroTag limit).Ensures source (Tag.Fits (Span.Fits source)) := by
  have name : (spanned Token.identifier).Ensures source
      fun found => True ∧ found.2.Fits source := .spanned fun _ _ _ _ _ => trivial
  have names : (macroParams limit).Ensures source
      fun params => ∀ param ∈ params, param.2.Fits source := by
    unfold macroParams
    refine .rule (.skip fun _ => .skip fun _ => .bind (.listed name) fun params all => ?_)
    exact .skip fun _ => .skip fun _ => .pure fun param member => (all param member).2
  unfold macroTag
  refine .rule (.skip fun _ => .skip fun _ => .skip fun _ => .skip fun _ => ?_)
  refine .bind (.optional names) fun params all => .skip fun _ => .skip fun _ => .pure ?_
  cases params with
  | none => exact nofun
  | some params => exact all params rfl

theorem ensures_includeTag : (includeTag limit).Ensures source (Tag.Fits (Span.Fits source)) := by
  have arg : (includeArg limit).Ensures source
      fun arg => Checked.ExprFits (Span.Fits source) arg.2 := by
    unfold includeArg
    refine .rule (.skip fun _ => .skip fun _ => .skip fun _ => .skip fun _ => ?_)
    exact .bind (ensures_expression limit) fun e fits => .pure fits
  unfold includeTag
  refine .rule (.skip fun _ => .skip fun _ => ?_)
  refine .bind (ensures_expression limit) fun template fits => ?_
  refine .skip fun _ => .bind (.optional (.skip fun _ => .skip fun _ => .separated arg))
    fun args all => .pure ⟨fits, ?_⟩
  cases args with
  | none => exact nofun
  | some args => exact all args rfl

theorem ensures_directive : (directive limit).Ensures source (Tag.Fits (Span.Fits source)) := by
  unfold directive
  apply Ensures.firstOf
  simp only [List.forall_mem_cons]
  refine ⟨ensures_testTag limit _ _ _ fun _ fits => fits,
    ensures_testTag limit _ _ _ fun _ fits => fits, ?otherwise,
    ensures_testTag limit _ _ _ fun _ fits => fits, ?stop, ?foreach,
    ensures_testTag limit _ _ _ fun _ fits => fits, ?assign, ensures_macroTag limit,
    ensures_includeTag limit, ?print, nofun⟩
  case otherwise | stop => exact .rule (.skip fun _ => .pure trivial)
  case foreach =>
    unfold foreachTag
    refine .rule (.skip fun _ => .skip fun _ => .skip fun _ => .skip fun _ => .skip fun _ => ?_)
    exact .skip fun _ => .bind (ensures_expression limit) fun e fits => .pure fits
  case assign =>
    unfold setTag
    refine .rule (.skip fun _ => .skip fun _ => .skip fun _ => .skip fun _ => .skip fun _ => ?_)
    exact .skip fun _ => .bind (ensures_expression limit) fun e fits => .pure fits
  case print => exact .rule (.bind (ensures_expression limit) fun e fits => .pure fits)

/-- A piece has a span that fits, and all spans in it do. -/
theorem ensures_one :
    (one limit).Ensures source fun p => p.kind.Fits (Span.Fits source) ∧ p.span.Fits source := by
  have kinds : (firstOf [text, comment, tag limit]).Ensures source
      (PieceKind.Fits (Span.Fits source)) := by
    apply Ensures.firstOf
    simp only [List.forall_mem_cons]
    refine ⟨?text, ?comment, ?tag, nofun⟩
    case text =>
      intro c kind d here read
      simp only [text, token, rule, silent] at read
      split at read
      · cases read
      · cases read
        trivial
    case comment =>
      intro c kind d here read
      simp only [comment, token, rule, silent] at read
      split at read
      · cases read
      · obtain ⟨_, _, same⟩ := Option.map_eq_some_iff.mp read
        cases same
        trivial
    case tag =>
      unfold tag
      refine .rule (.skip fun _ => .skip fun _ => .bind (ensures_directive limit) fun t fits => ?_)
      exact .skip fun _ => .skip fun _ => .pure fits
  unfold one
  exact .bind (.spanned kinds) fun found fits => .pure fits

end Piece

end TemplateEngine
