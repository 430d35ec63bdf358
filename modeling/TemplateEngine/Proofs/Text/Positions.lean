import Mathlib.Data.List.Induction
import TemplateEngine.Text.Position

/-!
# Offsets, lines and columns

An offset at which a text can be cut is a boundary. A span with two boundaries, the first
not behind the second, is a part of the text. From boundary to boundary the position moves
on: a line feed goes to the next line and any other character to the right, so that the
line and the column say which boundary it is.
-/

namespace TemplateEngine

theorem dropBytes_append (xs ys : List Char) : dropBytes (utf8Length xs) (xs ++ ys) = ys := by
  induction xs with
  | nil => cases ys <;> rfl
  | cons x xs ih =>
    have pos := x.utf8Size_pos
    rw [List.cons_append, dropBytes, utf8Length, if_neg (by omega), Nat.add_sub_cancel_left, ih]

theorem takeBytes_append (xs ys : List Char) : takeBytes (utf8Length xs) (xs ++ ys) = xs := by
  induction xs with
  | nil => cases ys <;> rfl
  | cons x xs ih =>
    have pos := x.utf8Size_pos
    rw [List.cons_append, takeBytes, utf8Length, if_neg (by omega), Nat.add_sub_cancel_left, ih]

/-- The text between two places of a source. -/
theorem Span.textIn_of_append {source : String} {front text back : List Char}
    (h : source.toList = front ++ text ++ back) :
    (⟨utf8Length front, utf8Length front + utf8Length text⟩ : Span).textIn source
      = String.ofList text := by
  rw [Span.textIn, h, List.append_assoc, dropBytes_append, Nat.add_sub_cancel_left,
    takeBytes_append]

/-- The offset lies between two characters of the text, or at one of its ends. -/
def IsBoundary (source : String) (offset : Nat) : Prop :=
  (String.Pos.Raw.mk offset).IsValid source

/-- The span is a part of the text. -/
structure Span.Fits (source : String) (s : Span) : Prop where
  ordered : s.start ≤ s.stop
  inside : s.stop ≤ source.utf8ByteSize
  start : IsBoundary source s.start
  stop : IsBoundary source s.stop

/-- An earlier line, or further to the left in the same line. -/
def Position.Before (p q : Position) : Prop :=
  p.line < q.line ∨ p.line = q.line ∧ p.column < q.column

theorem utf8ByteSize_ofList (cs : List Char) : (String.ofList cs).utf8ByteSize = utf8Length cs := by
  induction cs with
  | nil => rfl
  | cons c cs ih =>
    have first : String.ofList [c] = String.singleton c := rfl
    rw [← List.singleton_append, String.ofList_append, String.utf8ByteSize_append, ih, first,
      String.utf8ByteSize_singleton]
    rfl

theorem utf8Length_toList (s : String) : utf8Length s.toList = s.utf8ByteSize := by
  rw [← utf8ByteSize_ofList, String.ofList_toList]

theorem eq_nil_of_utf8Length {cs : List Char} (none : utf8Length cs = 0) : cs = [] := by
  cases cs with
  | nil => rfl
  | cons c cs =>
    have pos := c.utf8Size_pos
    rw [utf8Length] at none
    omega

theorem isBoundary_iff {source : String} {offset : Nat} :
    IsBoundary source offset ↔
      ∃ front back, source.toList = front ++ back ∧ offset = utf8Length front := by
  unfold IsBoundary
  rw [String.Pos.Raw.isValid_iff_exists_append]
  constructor
  · rintro ⟨front, back, rfl, place⟩
    refine ⟨front.toList, back.toList, String.toList_append, ?_⟩
    rw [utf8Length_toList]
    exact congrArg String.Pos.Raw.byteIdx place
  · rintro ⟨front, back, split, rfl⟩
    refine ⟨.ofList front, .ofList back, ?_, ?_⟩
    · rw [← String.ofList_append, ← split, String.ofList_toList]
    · rw [← utf8ByteSize_ofList]
      rfl

theorem Span.fits_of_append {source : String} {front text back : List Char}
    (split : source.toList = front ++ text ++ back) :
    (⟨utf8Length front, utf8Length (front ++ text)⟩ : Span).Fits source where
  ordered := by
    rw [utf8Length_append]
    exact Nat.le_add_right _ _
  inside := by
    rw [← utf8Length_toList, split, utf8Length_append (front ++ text)]
    exact Nat.le_add_right _ _
  start := isBoundary_iff.mpr ⟨front, text ++ back, by rw [split, List.append_assoc], rfl⟩
  stop := isBoundary_iff.mpr ⟨front ++ text, back, split, rfl⟩

theorem IsBoundary.fits {source : String} {n : Nat} (h : IsBoundary source n) :
    (⟨n, n⟩ : Span).Fits source where
  ordered := Nat.le_refl n
  inside := h.le_rawEndPos
  start := h
  stop := h

/-- The characters between two boundaries. -/
theorem exists_of_boundaries {source : String} {m n : Nat} (hm : IsBoundary source m)
    (hn : IsBoundary source n) (le : m ≤ n) :
    ∃ front text back, source.toList = front ++ text ++ back ∧ m = utf8Length front ∧
      n = utf8Length (front ++ text) := by
  obtain ⟨front, back, split, rfl⟩ := isBoundary_iff.mp hm
  obtain ⟨front', back', split', rfl⟩ := isBoundary_iff.mp hn
  have first : front <+: source.toList := ⟨back, split.symm⟩
  have second : front' <+: source.toList := ⟨back', split'.symm⟩
  rcases List.prefix_or_prefix_of_prefix first second with ⟨text, rfl⟩ | ⟨text, rfl⟩
  · exact ⟨front, text, back', split', rfl, rfl⟩
  · rw [utf8Length_append] at le
    have none : text = [] := eq_nil_of_utf8Length (by omega)
    subst none
    exact ⟨front', [], back, by simpa using split, by simp, by simp⟩

/-- What stands in a span, between what is in front of it and what is behind it. -/
theorem Span.Fits.exists_split {source : String} {s : Span} (h : s.Fits source) :
    ∃ front back, source = front ++ s.textIn source ++ back ∧ s.start = front.utf8ByteSize ∧
      s.stop = (front ++ s.textIn source).utf8ByteSize := by
  obtain ⟨start, stop⟩ := s
  obtain ⟨front, text, back, split, rfl, rfl⟩ := exists_of_boundaries h.start h.stop h.ordered
  have inner : Span.textIn ⟨utf8Length front, utf8Length (front ++ text)⟩ source
      = String.ofList text := by
    rw [utf8Length_append]
    exact Span.textIn_of_append split
  refine ⟨.ofList front, .ofList back, ?_, (utf8ByteSize_ofList front).symm, ?_⟩
  · rw [inner, ← String.ofList_append, ← String.ofList_append, ← split, String.ofList_toList]
  · rw [inner, ← String.ofList_append, utf8ByteSize_ofList]

namespace Position

variable {p q r : Position}

theorem before_next (p : Position) (c : Char) : p.Before (p.next c) := by
  by_cases feed : c = '\n'
  · exact .inl (by simp [next, feed])
  · exact .inr (by simp [next, feed])

theorem Before.trans (h : p.Before q) (h' : q.Before r) : p.Before r := by
  unfold Before at h h' ⊢
  omega

theorem Before.irrefl (p : Position) : ¬ p.Before p := by
  unfold Before
  omega

/-- Some characters lead to a later position. -/
theorem before_foldl {text : List Char} (some : text ≠ []) (p : Position) :
    p.Before (text.foldl next p) := by
  induction text generalizing p with
  | nil => exact absurd rfl some
  | cons c text ih =>
    cases text with
    | nil => exact p.before_next c
    | cons d text => exact (p.before_next c).trans (ih (List.cons_ne_nil d text) _)

/-- Lines are ended by line feeds, and columns are counted from the last one of these. -/
theorem foldl_next (front : List Char) :
    front.foldl next start
      = ⟨front.count '\n' + 1, (front.reverse.takeWhile (· ≠ '\n')).length + 1⟩ := by
  induction front using List.reverseRecOn with
  | nil => rfl
  | append_singleton front c ih =>
    rw [List.foldl_append, ih]
    by_cases feed : c = '\n'
    · simp [next, feed]
    · simp [next, feed]

theorem ofOffset_of_append {source : String} {front back : List Char}
    (split : source.toList = front ++ back) :
    ofOffset source (utf8Length front) = front.foldl next start := by
  rw [ofOffset, split, takeBytes_append]

theorem ofOffset_before {source : String} {m n : Nat} (hm : IsBoundary source m)
    (hn : IsBoundary source n) (lt : m < n) : (ofOffset source m).Before (ofOffset source n) := by
  obtain ⟨front, text, back, split, rfl, rfl⟩ := exists_of_boundaries hm hn (Nat.le_of_lt lt)
  have some : text ≠ [] := by
    rintro rfl
    rw [List.append_nil] at lt
    exact Nat.lt_irrefl _ lt
  rw [ofOffset_of_append split, ofOffset_of_append (split.trans (List.append_assoc ..)),
    List.foldl_append]
  exact before_foldl some _

/-- No two boundaries have the same position. -/
theorem eq_of_ofOffset_eq {source : String} {m n : Nat} (hm : IsBoundary source m)
    (hn : IsBoundary source n) (same : ofOffset source m = ofOffset source n) : m = n := by
  rcases Nat.lt_trichotomy m n with lt | eq | lt
  · exact absurd (same ▸ ofOffset_before hm hn lt) (Before.irrefl _)
  · exact eq
  · exact absurd (same ▸ ofOffset_before hn hm lt) (Before.irrefl _)

/-- Positions count lines and columns, and from boundary to boundary they only move on. -/
structure Laws (source : String) : Prop where
  start : ofOffset source 0 = ⟨1, 1⟩
  /-- The lines are those that have ended, and the column counts from the last line feed. -/
  counts : ∀ front back, source = front ++ back →
    ofOffset source front.utf8ByteSize
      = ⟨front.toList.count '\n' + 1, (front.toList.reverse.takeWhile (· ≠ '\n')).length + 1⟩
  increases : ∀ m n, IsBoundary source m → IsBoundary source n → m < n →
    (ofOffset source m).Before (ofOffset source n)
  unique : ∀ m n, IsBoundary source m → IsBoundary source n →
    ofOffset source m = ofOffset source n → m = n

theorem laws (source : String) : Laws source where
  start := by
    have split : source.toList = [] ++ source.toList := rfl
    exact ofOffset_of_append split
  counts front back split := by
    subst split
    rw [← utf8Length_toList, ofOffset_of_append String.toList_append, foldl_next]
  increases _ _ := ofOffset_before
  unique _ _ := eq_of_ofOffset_eq

end Position
end TemplateEngine
