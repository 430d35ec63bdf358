import TemplateEngine.Proofs.Template.Advances
import TemplateEngine.Proofs.Template.Pieces
import TemplateEngine.Proofs.Text.Positions

/-!
# Pieces tile the source

Texts, comments and tags follow each other from the start of the source to its end, so
the spans of the pieces leave no gap and do not overlap. A text piece is what stands in
its span.
-/

namespace TemplateEngine

namespace Piece

open Reader

/-- What is written for a piece. -/
inductive Writes : PieceKind → List Char → Prop
  | text {s : String} : s.toList ≠ [] → ¬ ['[', '%'] <:+: s.toList → Writes (.text s) s.toList
  | comment (inner : List Char) : ¬ ['%', ']'] <:+: inner →
      Writes .comment (['[', '%', '#'] ++ inner ++ ['%', ']'])
  | tag (t : Tag) (inner : List Char) : Writes (.tag t) (['[', '%'] ++ inner ++ ['%', ']'])

/-- The pieces stand in the text one after the other, from an offset on. -/
inductive Tiles : Nat → List Char → List Piece → Prop
  | nil (o : Nat) : Tiles o [] []
  | cons {o : Nat} {piece : Piece} {taken rest : List Char} {pieces : List Piece} :
      Writes piece.kind taken → piece.span = ⟨o, o + utf8Length taken⟩ →
      Tiles (o + utf8Length taken) rest pieces → Tiles o (taken ++ rest) (piece :: pieces)

variable {mark cs taken : List Char} {c d : Cursor} {kind : PieceKind} {piece : Piece}
  {pieces : List Piece} {source : String}

theorem prefix_before (mark cs : List Char) : before mark cs <+: cs := by
  induction cs with
  | nil => exact List.prefix_refl []
  | cons c cs ih =>
    rw [before]
    split
    · exact List.nil_prefix
    · exact List.cons_prefix_cons.mpr ⟨rfl, ih⟩

theorem not_infix_before (nonempty : mark ≠ []) (cs : List Char) : ¬ mark <:+: before mark cs := by
  induction cs with
  | nil =>
    intro inside
    exact nonempty (List.eq_nil_of_infix_nil inside)
  | cons c cs ih =>
    rw [before]
    split
    case isTrue =>
      intro inside
      exact nonempty (List.eq_nil_of_infix_nil inside)
    case isFalse other =>
      intro inside
      rcases List.infix_cons_iff.mp inside with first | later
      · have whole : c :: before mark cs <+: c :: cs :=
          List.cons_prefix_cons.mpr ⟨rfl, prefix_before mark cs⟩
        exact other (List.isPrefixOf_iff_prefix.mpr (first.trans whole))
      · exact ih later

theorem takes_takeBefore (mark : List Char) (c : Cursor) :
    c.Takes (takeBefore mark c).1 (takeBefore mark c).2 := by
  exact ⟨(List.prefix_iff_eq_append.mp (prefix_before mark c.rest)).symm, rfl⟩

theorem writes_text (h : text.read c = some (kind, d)) :
    ∃ taken, c.Takes taken d ∧ Writes kind taken := by
  have front := takes_takeBefore ['[', '%'] c
  have open_free := not_infix_before (show ['[', '%'] ≠ [] by simp) c.rest
  simp only [text, token, rule, silent] at h
  split at h
  · cases h
  case h_2 taken d' nonempty eq =>
    cases h
    rw [eq] at front
    have same : taken = before ['[', '%'] c.rest := (congrArg Prod.fst eq).symm
    rw [← same] at open_free
    have chars : (String.ofList taken).toList = taken := String.toList_ofList
    refine ⟨taken, front, ?_⟩
    nth_rewrite 2 [← chars]
    refine .text ?_ (by rwa [chars])
    rw [chars]
    rintro rfl
    exact nonempty rfl

theorem writes_comment (h : comment.read c = some (kind, d)) :
    ∃ taken, c.Takes taken d ∧ Writes kind taken := by
  simp only [comment, token, rule, silent] at h
  split at h
  · cases h
  case h_2 c₁ opened =>
    obtain ⟨d', closed, same⟩ := Option.map_eq_some_iff.mp h
    cases same
    refine ⟨_, ((Cursor.takes_strip? opened).trans (takes_takeBefore _ c₁)).trans
      (Cursor.takes_strip? closed), .comment _ (not_infix_before (by simp) _)⟩

theorem writes_tag {limit : Nat} (h : (tag limit).read c = some (kind, d)) :
    ∃ taken, c.Takes taken d ∧ Writes kind taken := by
  obtain ⟨_, c₁, opened, h⟩ := read_bind_eq_some (show (_ >>= _ : Reader Rule _).read c = _ from h)
  obtain ⟨_, c₂, spaced, h⟩ := read_bind_eq_some h
  obtain ⟨t, c₃, directed, h⟩ := read_bind_eq_some h
  obtain ⟨_, c₄, spaced', h⟩ := read_bind_eq_some h
  obtain ⟨_, c₅, closed, h⟩ := read_bind_eq_some h
  cases h
  obtain ⟨blanks, before⟩ := Advances.takes spaced
  obtain ⟨words, inner⟩ := Advances.takes directed
  obtain ⟨blanks', after⟩ := Advances.takes spaced'
  refine ⟨_, ((takes_exact opened).trans ((before.trans inner).trans after)).trans
    (takes_exact closed), .tag t _⟩

/-- The grammar cuts a piece off the front of a text. -/
theorem exists_writes {limit : Nat} (h : (firstOf [text, comment, tag limit]).read c = some (kind, d)) :
    ∃ taken, c.Takes taken d ∧ Writes kind taken := by
  simp only [firstOf, either] at h
  split at h
  case h_1 =>
    split at h
    case h_1 => exact writes_tag h
    case h_2 r read =>
      cases h
      exact writes_comment read
  case h_2 r read =>
    cases h
    exact writes_text read

theorem tiles_readMany (limit n : Nat) (c : Cursor) :
    ∃ taken, c.Takes taken (readMany (one limit).read n c).2 ∧
      Tiles c.offset taken (readMany (one limit).read n c).1 := by
  induction n generalizing c with
  | zero => exact ⟨[], .refl c, .nil _⟩
  | succ n ih =>
    rw [readMany]
    cases first : (one limit).read c with
    | none => exact ⟨[], .refl c, .nil _⟩
    | some r =>
      obtain ⟨piece, c'⟩ := r
      obtain ⟨⟨kind, span⟩, _, spanned, made⟩ := read_bind_eq_some first
      cases made
      obtain ⟨taken, front, writes, rfl⟩ : ∃ taken, c.Takes taken c' ∧ Writes kind taken ∧
          span = ⟨c.offset, c'.offset⟩ := by
        simp only [Reader.spanned] at spanned
        split at spanned
        · cases spanned
        case h_2 a d read =>
          cases spanned
          obtain ⟨taken, front, writes⟩ := exists_writes read
          exact ⟨taken, front, writes, rfl⟩
      obtain ⟨others, back, tiles⟩ := ih c'
      refine ⟨taken ++ others, front.trans back, .cons writes ?_ ?_⟩
      · rw [front.offset]
      · rw [← front.offset]
        exact tiles

/-- The pieces of a source tile it. -/
theorem tiles_of_scan (scanned : scan source = .ok pieces) : Tiles 0 source.toList pieces := by
  unfold scan at scanned
  dsimp only at scanned
  split at scanned
  case h_2 => cases scanned
  case h_1 pieces' d read =>
    cases scanned
    obtain ⟨found, c, many, rest⟩ := read_bind_eq_some read
    obtain ⟨_, c', ended, made⟩ := read_bind_eq_some rest
    cases made
    have empty : c.rest = [] := by
      change (if c.rest.isEmpty then some ((), c) else none) = some (_, _) at ended
      split at ended
      case isTrue none => exact List.isEmpty_iff.mp none
      case isFalse => cases ended
    obtain ⟨taken, front, tiles⟩ := tiles_readMany (source.toList.length + 1)
      (source.toList.length + 1) (Cursor.ofString source)
    have many : readMany (one (source.toList.length + 1)).read (source.toList.length + 1)
        (Cursor.ofString source) = (pieces, c) := Option.some.inj many
    rw [many] at front tiles
    have whole : source.toList = taken := by
      have rest := front.rest
      rwa [empty, List.append_nil] at rest
    rw [whole]
    exact tiles

/-- Where pieces tile a part of the source, each stands in its span. -/
theorem Tiles.writes_textIn {front text back : List Char} (h : Tiles (utf8Length front) text pieces)
    (split : source.toList = front ++ text ++ back) :
    ∀ piece ∈ pieces, Writes piece.kind (piece.span.textIn source).toList := by
  generalize start : utf8Length front = o at h
  induction h generalizing front with
  | nil => exact nofun
  | @cons o piece taken rest pieces writes span _ ih =>
    subst start
    have here : source.toList = front ++ taken ++ (rest ++ back) := by
      rw [split]
      simp only [List.append_assoc]
    have next : source.toList = (front ++ taken) ++ rest ++ back := by
      rw [here, List.append_assoc (front ++ taken)]
    refine List.forall_mem_cons.mpr ⟨?_, ih next (utf8Length_append _ _)⟩
    rw [span, Span.textIn_of_append here, String.toList_ofList]
    exact writes

/-- The spans of pieces that tile the source give the whole source. -/
theorem Tiles.join_textIn {front text back : List Char} (h : Tiles (utf8Length front) text pieces)
    (split : source.toList = front ++ text ++ back) :
    String.join (pieces.map fun piece => piece.span.textIn source) = String.ofList text := by
  generalize start : utf8Length front = o at h
  induction h generalizing front with
  | nil => rfl
  | @cons o piece taken rest pieces writes span _ ih =>
    subst start
    have here : source.toList = front ++ taken ++ (rest ++ back) := by
      rw [split]
      simp only [List.append_assoc]
    have next : source.toList = (front ++ taken) ++ rest ++ back := by
      rw [here, List.append_assoc (front ++ taken)]
    rw [List.map_cons, String.join_cons, ih next (utf8Length_append _ _), span,
      Span.textIn_of_append here, String.ofList_append]

end Piece
end TemplateEngine
