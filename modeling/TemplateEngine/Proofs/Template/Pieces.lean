import TemplateEngine.Proofs.Template.Tags
import TemplateEngine.Template.Block

/-!
# Cutting printed templates into pieces

A text outside of tags is read up to the next mark of a tag, so it is a single piece
with all of the text if such a mark or nothing comes after it. Tags and comments may be
followed by anything. The pieces of a block are those of its tags and those of its body
between them.
-/

namespace TemplateEngine
namespace Piece

open Reader

/-- A piece at the front of a text. -/
def one (limit : Nat) : Reader Rule Piece := do
  let found ← spanned (firstOf [text, comment, tag limit])
  return ⟨found.1, found.2⟩

/-- Pieces up to the end of the text are all that is read. -/
theorem reads_pieces {limit : Nat} {text : List Char} {P : List Piece → Prop}
    (h : (many limit (one limit)).Reads text [] P) : (Piece.reader limit).Reads text [] P := by
  unfold Piece.reader
  refine Reads.bind h fun pieces holds => ?_
  exact Reads.bind (P := fun _ => True) (fun o => ⟨(), o, rfl, trivial⟩) fun _ _ => .pure holds

/-- A text outside of tags ends here. -/
def AtMark (rest : List Char) : Prop := rest = [] ∨ ∃ others, rest = '[' :: '%' :: others

/-- The text is cut into pieces with a property, whatever comes after it, if only that
may follow it. -/
def Cut (limit : Nat) (follows : List Char → Prop) (text : List Char) (P : List Piece → Prop) : Prop :=
  ∃ count, count ≤ text.length ∧ ∀ rest, follows rest → ∀ n Q,
    (many n (one limit)).Reads rest [] Q →
      (many (n + count) (one limit)).Reads (text ++ rest) []
        fun ps => ∃ first others, ps = first ++ others ∧ P first ∧ Q others

variable {limit : Nat} {text text' words : List Char} {follows follows' : List Char → Prop}
  {P P' R : List Piece → Prop}

theorem Cut.nil (holds : P []) : Cut limit follows [] P :=
  ⟨0, Nat.le_refl _, fun _ _ _ _ read => read.imp fun ps all => ⟨[], ps, rfl, holds, all⟩⟩

theorem Cut.append (first : Cut limit follows text P) (second : Cut limit follows' text' P')
    (joins : ∀ rest, follows' rest → follows (text' ++ rest))
    (both : ∀ ps qs, P ps → P' qs → R (ps ++ qs)) : Cut limit follows' (text ++ text') R := by
  obtain ⟨count, few, cut⟩ := first
  obtain ⟨count', few', cut'⟩ := second
  refine ⟨count' + count, ?_, ?_⟩
  · rw [List.length_append]
    omega
  · intro rest last n Q read
    rw [List.append_assoc, ← Nat.add_assoc]
    refine (cut _ (joins rest last) _ _ (cut' rest last n Q read)).imp ?_
    rintro _ ⟨ps, _, rfl, holds, qs, others, rfl, holds', all⟩
    exact ⟨ps ++ qs, others, (List.append_assoc ..).symm, both ps qs holds holds', all⟩

theorem Cut.imp (h : Cut limit follows text P) (imp : ∀ ps, P ps → P' ps) :
    Cut limit follows text P' := by
  obtain ⟨count, few, cut⟩ := h
  refine ⟨count, few, fun rest last n Q read => (cut rest last n Q read).imp ?_⟩
  rintro _ ⟨first, others, rfl, holds, all⟩
  exact ⟨first, others, rfl, imp first holds, all⟩

/-- A text that is a single piece. -/
theorem Cut.one {K : PieceKind → Prop} (nonempty : text ≠ [])
    (read : ∀ rest, follows rest →
      (firstOf [Piece.text, comment, tag limit]).Reads (text ++ rest) rest K) :
    Cut limit follows text fun ps => ∃ kind span, ps = [⟨kind, span⟩] ∧ K kind := by
  refine ⟨1, List.length_pos_of_ne_nil nonempty, fun rest last n Q others => ?_⟩
  have first : (Piece.one limit).Reads (text ++ rest) rest
      fun piece => ∃ kind span, piece = ⟨kind, span⟩ ∧ K kind :=
    (read rest last).spanned.thenPure fun found holds => ⟨found.1, found.2, rfl, holds⟩
  refine (first.many_cons others).imp ?_
  rintro _ ⟨_, later, rfl, ⟨kind, span, rfl, holds⟩, all⟩
  exact ⟨[⟨kind, span⟩], later, rfl, ⟨kind, span, rfl, holds⟩, all⟩

theorem cut_tag {T : Tag → Prop} (h : Directs limit words T) :
    Cut limit (fun _ => True) (Printer.tag words)
      fun ps => ∃ t span, ps = [⟨.tag t, span⟩] ∧ T t := by
  refine (Cut.one (by simp [Printer.tag]) fun rest _ => reads_tag h rest).imp ?_
  rintro _ ⟨_, span, rfl, t, rfl, holds⟩
  exact ⟨t, span, rfl, holds⟩

theorem cut_comment :
    Cut limit (fun _ => True) Printer.comment fun ps => ∃ span, ps = [⟨.comment, span⟩] := by
  refine (Cut.one (K := fun kind => kind = .comment) (by decide) fun rest _ => ?_).imp ?_
  · exact .later (fun _ => rfl) (.first fun o => ⟨_, _, rfl, rfl⟩)
  · rintro _ ⟨_, span, rfl, rfl⟩
    exact ⟨span, rfl⟩

theorem before_append {text rest : List Char} (noTag : ¬ ['[', '%'] <:+: text)
    (stop : AtMark rest) : before ['[', '%'] (text ++ rest) = text := by
  induction text with
  | nil => rcases stop with rfl | ⟨others, rfl⟩ <;> rfl
  | cons c text ih =>
    have later : ¬ ['[', '%'] <:+: text := fun inside =>
      noTag (inside.trans (List.suffix_cons c text).isInfix)
    have here : ['[', '%'].isPrefixOf (c :: (text ++ rest)) = false := by
      cases text with
      | nil => rcases stop with rfl | ⟨others, rfl⟩ <;> simp [List.isPrefixOf]
      | cons d text =>
        have other : ¬ ('[' = c ∧ '%' = d) := by
          rintro ⟨rfl, rfl⟩
          exact noTag ⟨[], text, rfl⟩
        simpa [List.isPrefixOf] using other
    rw [List.cons_append, before, here]
    simp [ih later]

theorem cut_text {s : String} (plain : IsPlainText s) :
    Cut limit AtMark s.toList fun ps => ∃ span, ps = [⟨.text s, span⟩] := by
  have nonempty : s.toList ≠ [] := by simpa using plain.nonempty
  refine (Cut.one (K := fun kind => kind = .text s) nonempty fun rest last => ?_).imp ?_
  · refine .first fun o => ⟨.text s, o + utf8Length s.toList, ?_, rfl⟩
    have taken := before_append plain.noTag last
    obtain ⟨c, others, eq⟩ := List.exists_cons_of_ne_nil nonempty
    have whole : String.ofList (c :: others) = s := by rw [← eq, String.ofList_toList]
    rw [eq] at taken ⊢
    simp only [Piece.text, token, silent, read_rule, takeBefore, taken, whole,
      List.drop_left]
  · rintro _ ⟨_, span, rfl, rfl⟩
    exact ⟨span, rfl⟩

end Piece
end TemplateEngine
