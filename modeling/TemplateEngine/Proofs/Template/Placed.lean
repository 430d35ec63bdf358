import TemplateEngine.Proofs.Template.Ensures
import TemplateEngine.Proofs.Template.Structure

/-!
# Spans point into the source

The pieces of a source have spans that fit, and the assembly only passes on what it finds in
them. So the spans in a template and that of a syntax error are parts of the source, and an
error of the compiler points at one of the spans in the template. The position of a span is
found by counting the lines in front of it.
-/

namespace TemplateEngine

section

variable {source : String} {S : Span → Prop}

namespace Piece

open Reader

instance : Advances (.token .endOfInput fun c => if c.rest.isEmpty then some ((), c) else none :
    Reader Rule Unit) := advances_token _ <| by
  intro c a d h
  split at h
  · cases h
    exact ⟨[], .refl c⟩
  · cases h

instance (limit : Nat) : Advances (reader limit) := by
  have piece : Advances (one limit) := inferInstance
  unfold reader
  infer_instance

/-- The spans of a piece, its own one among them, have the property. -/
def Fits (S : Span → Prop) (p : Piece) : Prop := p.kind.Fits S ∧ S p.span

theorem ensures_reader (limit : Nat) :
    (reader limit).Ensures source fun pieces => ∀ p ∈ pieces, p.Fits (Span.Fits source) := by
  unfold reader
  exact .bind (.many (ensures_one limit)) fun pieces all => .skip fun _ => .pure all

theorem fits_scan (source : String) :
    Checked.Fits (Span.Fits source) (fun pieces => ∀ p ∈ pieces, p.Fits (Span.Fits source))
      (scan source) := by
  have start := Cursor.within_ofString source
  unfold scan
  dsimp only
  split
  case h_1 pieces c read => exact ensures_reader _ _ _ _ start read
  case h_2 =>
    apply IsBoundary.fits
    rcases Advances.fails (p := reader _) (Cursor.ofString source) .none with none | ahead
    · rw [none]
      exact start.isBoundary
    · exact start.isBoundary_of_ahead ahead

end Piece

/-- The sign of a tag, or the first fault in it. -/
def Tag.checked : Tag → Checked Sign
  | .print e => e.map fun e => .leaf (.print e)
  | .assign name e => e.map fun e => .leaf (.assign name e)
  | .inclusion template args => do
    let template ← template
    let args ← Assembly.checkArgs args
    return .leaf (.inclusion template args)
  | .ifTag test => test.map fun e => .opener (.branch e)
  | .unlessTag test => test.map fun e => .opener (.branch (.unary .not e))
  | .elsifTag test => test.map .elsif
  | .elseTag => .ok .otherwise
  | .foreachTag var iterable => iterable.map fun e => .opener (.foreach var e)
  | .whileTag test => test.map fun e => .opener (.loop e)
  | .macroTag name params => .ok (.opener (.define name params))
  | .endTag => .ok .stop

theorem Assembly.addTag_eq_bind (a : Assembly) (span : Span) (t : Tag) :
    a.addTag span t = t.checked >>= a.addSign span := by
  cases t with
  | elseTag | macroTag | endTag => rfl
  | inclusion template args =>
    cases template with
    | error => rfl
    | ok =>
      simp only [addTag, Tag.checked]
      cases checkArgs args <;> rfl
  | print e | assign _ e | ifTag e | unlessTag e | elsifTag e | foreachTag _ e | whileTag e =>
    cases e <;> rfl

theorem Assembly.fits_checkArgs {args : List (String × Checked Expr)}
    (h : ∀ arg ∈ args, Checked.ExprFits S arg.2) :
    Checked.Fits S (fun args => ∀ span ∈ Expr.spansOfItems (args.map Prod.snd), S span)
      (checkArgs args) := by
  induction args with
  | nil => exact nofun
  | cons arg rest ih =>
    obtain ⟨first, others⟩ := List.forall_mem_cons.mp h
    refine Checked.Fits.bind first fun e fits => (ih others).bind fun args all => ?_
    exact List.forall_mem_append.mpr ⟨fits, all⟩

theorem Tag.fits_checked {t : Tag} (h : t.Fits S) :
    Checked.Fits S (fun sign => ∀ span ∈ sign.spans, S span) t.checked := by
  cases t with
  | elseTag | endTag => exact nofun
  | macroTag name params => exact List.forall_mem_map.mpr h
  | inclusion template args =>
    refine Checked.Fits.bind h.1 fun e fits => (Assembly.fits_checkArgs h.2).bind fun args all => ?_
    exact List.forall_mem_append.mpr ⟨fits, all⟩
  | print e | assign _ e | ifTag e | unlessTag e | elsifTag e | foreachTag _ e | whileTag e =>
    exact Checked.Fits.map h fun e fits => fits

namespace Assembly

/-- The assembly has taken in signs with such spans, at such spans. -/
def Fits (S : Span → Prop) (a : Assembly) : Prop :=
  ∃ read, Lays read a ∧ ∀ placed ∈ read, S placed.2 ∧ ∀ span ∈ placed.1.spans, S span

variable {a : Assembly} {span : Span} {sign : Sign} {p : Piece} {pieces : List Piece}

theorem fits_empty : empty.Fits S := ⟨[], .empty, nofun⟩

theorem Fits.addSign (h : a.Fits S) (here : S span) (fits : ∀ span ∈ sign.spans, S span) :
    Checked.Fits S (Fits S) (a.addSign span sign) := by
  obtain ⟨read, lays, all⟩ := h
  cases taken : a.addSign span sign with
  | ok a' =>
    refine ⟨read ++ [(sign, span)], lays.addSign taken, ?_⟩
    exact List.forall_mem_append.mpr ⟨all, List.forall_mem_singleton.mpr ⟨here, fits⟩⟩
  | error fault =>
    obtain ⟨cause, rfl, -⟩ := lays.refused taken
    exact here

theorem Fits.addPiece (h : a.Fits S) (fits : p.Fits S) :
    Checked.Fits S (Fits S) (a.addPiece p) := by
  obtain ⟨kind, span⟩ := p
  obtain ⟨inside, here⟩ := fits
  cases kind with
  | text s =>
    have added : Checked.Fits S (Fits S) (a.addSign span (.leaf (.text s))) := h.addSign here nofun
    exact added
  | comment => exact h
  | tag t =>
    have tagged : a.addPiece ⟨.tag t, span⟩ = t.checked >>= a.addSign span := a.addTag_eq_bind span t
    rw [tagged]
    exact (Tag.fits_checked inside).bind fun sign fits => h.addSign here fits

theorem Fits.addPieces (h : a.Fits S) (fits : ∀ p ∈ pieces, p.Fits S) :
    Checked.Fits S (Fits S) (a.addPieces pieces) := by
  induction pieces generalizing a with
  | nil => exact h
  | cons p rest ih =>
    obtain ⟨first, others⟩ := List.forall_mem_cons.mp fits
    exact (h.addPiece first).bind fun a' h' => ih h' others

theorem Fits.finish (h : a.Fits S) :
    Checked.Fits S (fun body => ∀ span ∈ Node.spansOfBody body, S span) a.finish := by
  obtain ⟨root, opened⟩ := a
  obtain ⟨read, lays, all⟩ := h
  cases lays with
  | root here =>
    intro span member
    rw [← Node.spans_signsAll, ← here] at member
    obtain ⟨sign, written, inside⟩ := List.mem_flatMap.mp member
    obtain ⟨placed, known, rfl⟩ := List.mem_map.mp written
    exact (all placed known).2 span inside
  | opened => exact (all _ (List.mem_append_right _ List.mem_cons_self)).1

end Assembly

theorem Piece.fits_assemble {pieces : List Piece} (fits : ∀ p ∈ pieces, p.Fits S) :
    Checked.Fits S (fun body => ∀ span ∈ Node.spansOfBody body, S span) (assemble pieces) :=
  (Assembly.fits_empty.addPieces fits).bind fun _ h => h.finish

namespace Template

theorem fits_parse (name source : String) :
    (∀ t, parse name source = .ok t → ∀ span ∈ t.spans, span.Fits source) ∧
      ∀ e, parse name source = .error e → e.source = source ∧ e.span.Fits source := by
  have fits : Checked.Fits (Span.Fits source)
      (fun body => ∀ span ∈ Node.spansOfBody body, span.Fits source)
      (Piece.scan source >>= Piece.assemble) :=
    (Piece.fits_scan source).bind fun pieces all => Piece.fits_assemble all
  unfold parse
  dsimp only
  split
  case h_1 body made =>
    rw [show Piece.scan source >>= Piece.assemble = _ from made] at fits
    refine ⟨?_, fun _ => nofun⟩
    rintro _ ⟨⟩
    exact fits
  case h_2 span fault failed =>
    rw [show Piece.scan source >>= Piece.assemble = _ from failed] at fits
    refine ⟨fun _ => nofun, ?_⟩
    rintro _ ⟨⟩
    exact ⟨rfl, fits⟩

/-- Every span that parsing a source leads to is a part of the source, be it in the template, in a
syntax error or in an error of the compiler. So it can be cut out, and its position tells where it
is. -/
theorem spans_fit (name source : String) :
    (∀ t, parse name source = .ok t →
      (∀ span ∈ t.spans, span.Fits source) ∧
        ∀ options e, t.compile options source = .error e →
          e.source = source ∧ e.span.Fits source) ∧
    (∀ e, parse name source = .error e → e.source = source ∧ e.span.Fits source) ∧
    (∀ span : Span, span.Fits source →
      ∃ front back, source = front ++ span.textIn source ++ back ∧
        span.start = front.utf8ByteSize ∧ span.stop = (front ++ span.textIn source).utf8ByteSize) ∧
    Position.Laws source := by
  obtain ⟨good, bad⟩ := fits_parse name source
  refine ⟨fun t parsed => ⟨good t parsed, fun options e failed => ⟨?_, ?_⟩⟩, bad,
    fun _ fits => fits.exists_split, Position.laws source⟩
  · exact (compile_eq_error_iff.mp failed).2.2
  · exact good t parsed _ (span_mem_of_compile failed)

end Template

end

namespace Accent

/-- A character of two bytes stands in front of a filter that does not exist. -/
def source : String := "é[% x | nope %]"

theorem spans_fit_accent :
    ∃ t e, Template.parse "page" source = .ok t ∧ t.compile ⟨true⟩ source = .error e ∧
      e.span = ⟨7, 13⟩ ∧ e.span.Fits source ∧ e.position = ⟨1, 7⟩ := by
  have fails : (match Template.parse "page" source with
      | .error _ => none
      | .ok t => match t.compile ⟨true⟩ source with
        | .ok _ => none
        | .error e => some (e.span, e.position)) = some (⟨7, 13⟩, ⟨1, 7⟩) := by
    decide +kernel
  split at fails
  · cases fails
  case h_2 t parsed =>
    split at fails
    · cases fails
    case h_2 e failed =>
      obtain ⟨span, position⟩ := Prod.mk.inj (Option.some.inj fails)
      obtain ⟨good, -⟩ := Template.spans_fit "page" source
      exact ⟨t, e, parsed, failed, span, ((good t parsed).2 ⟨true⟩ e failed).2, position⟩

end Accent
end TemplateEngine
