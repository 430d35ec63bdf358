import TemplateEngine.Proofs.Template.Printer
import TemplateEngine.Proofs.Template.Reads

/-!
# Reading words and literals

A word is read whole, so it is read back if what follows does not go on with it. It is
one keyword, or an identifier, or something else, but never two of them.
-/

namespace TemplateEngine

open Reader

/-- No character that passes the test comes next. -/
def Ends (test : Char → Bool) (rest : List Char) : Prop := ∀ c ∈ rest.head?, test c = false

theorem ends_cons {test : Char → Bool} {c : Char} {rest : List Char} (h : test c = false) :
    Ends test (c :: rest) := by
  intro d known
  cases known
  exact h

/-- One or more characters that pass a test. -/
structure IsRun (test : Char → Bool) (text : List Char) : Prop where
  nonempty : text ≠ []
  chars : ∀ c ∈ text, test c = true

theorem skip_of_ends {text : List Char} (h : Ends Cursor.isSpace text) : skip text = text := by
  cases text with
  | nil => rfl
  | cons c text => exact skip_cons (h c rfl)

theorem isRun_of_all {test : Char → Bool} {text : List Char} (nonempty : text ≠ [])
    (all : text.all test = true) : IsRun test text := ⟨nonempty, List.all_eq_true.mp all⟩

theorem isWordChar_iff {c : Char} : Token.isWordChar c = true ↔ c.isAlphanum ∨ c = '_' := by
  simp [Token.isWordChar]

/-- No sign and no blank starts a word. -/
theorem IsRun.ne_of_word {text : List Char} (h : IsRun Token.isWordChar text) {rest : List Char}
    {sign : Char} (noWord : Token.isWordChar sign = false) : ∀ c ∈ (text ++ rest).head?, c ≠ sign := by
  cases text with
  | nil => exact absurd rfl h.nonempty
  | cons c text =>
    rintro _ ⟨⟩ rfl
    have word := h.chars c (List.mem_cons_self ..)
    rw [noWord] at word
    cases word

theorem IsRun.skip_word {text : List Char} (h : IsRun Token.isWordChar text) (rest : List Char) :
    skip (text ++ rest) = text ++ rest := by
  apply skip_of_ends
  intro c known
  have ne {sign : Char} (noWord : Token.isWordChar sign = false) : (c == sign) = false :=
    beq_false_of_ne (h.ne_of_word noWord c known)
  simp only [Cursor.isSpace, ne (show Token.isWordChar ' ' = false from rfl),
    ne (show Token.isWordChar '\t' = false from rfl), ne (show Token.isWordChar '\r' = false from rfl),
    ne (show Token.isWordChar '\n' = false from rfl), Bool.or_self]

theorem IsFieldName.isRun {name : String} (h : IsFieldName name) :
    IsRun Token.isWordChar name.toList :=
  ⟨by simpa using h.nonempty, fun c member => isWordChar_iff.mpr (h.chars c member)⟩

theorem IsIdentifier.isRun {name : String} (h : IsIdentifier name) :
    IsRun Token.isWordChar name.toList := by
  obtain ⟨c, rest, eq, -⟩ := h.first
  exact ⟨by simp [eq], fun c member => isWordChar_iff.mpr (h.chars c member)⟩

theorem IsIdentifier.not_isDigit {name : String} (h : IsIdentifier name) (rest : List Char) :
    Ends Char.isDigit (name.toList ++ rest) := by
  obtain ⟨c, others, eq, letter⟩ := h.first
  rw [eq]
  apply ends_cons
  rcases letter with letter | rfl
  · have letter : (decide (c.val ≥ 'A'.val ∧ c.val ≤ 'Z'.val)
        || (decide (c.val ≥ 'a'.val) && decide (c.val ≤ 'z'.val))) = true := letter
    change (decide (c.val ≥ '0'.val) && decide (c.val ≤ '9'.val)) = false
    grind
  · rfl

/-- An identifier is none of the keywords. -/
theorem IsIdentifier.ne {name text : String} (h : IsIdentifier name) (keyword : text ∈ Token.keywords) :
    name.toList ≠ text.toList := by
  intro same
  rw [String.toList_inj.mp same] at h
  exact h.noKeyword keyword

namespace Token

variable {test : Char → Bool} {text rest : List Char} {r : Rule} {name : String}

theorem takeSome_append (run : IsRun test text) (ends : Ends test rest) (o : Nat) :
    takeSome test ⟨text ++ rest, o⟩ = some (text, ⟨rest, o + utf8Length text⟩) := by
  have none : rest.takeWhile test = [] ∧ rest.dropWhile test = rest := by
    cases rest with
    | nil => exact ⟨rfl, rfl⟩
    | cons c rest => simp [ends c rfl]
  have taken : (text ++ rest).takeWhile test = text := by
    rw [List.takeWhile_append_of_pos run.chars, none.1, List.append_nil]
  have left : (text ++ rest).dropWhile test = rest := by
    rw [List.dropWhile_append_of_pos run.chars, none.2]
  have read : (⟨text ++ rest, o⟩ : Cursor).takeWhile test = (text, ⟨rest, o + utf8Length text⟩) := by
    rw [Cursor.takeWhile, taken, left]
  rw [takeSome, read]
  cases text with
  | nil => exact absurd rfl run.nonempty
  | cons c text => rfl

theorem takeSome_eq_none (ends : Ends test text) (o : Nat) : takeSome test ⟨text, o⟩ = none := by
  cases text with
  | nil => rfl
  | cons c text => simp [takeSome, Cursor.takeWhile, ends c rfl]

theorem reads_word (run : IsRun isWordChar name.toList) (ends : Ends isWordChar rest) :
    (word r name).Reads (name.toList ++ rest) rest fun _ => True := by
  intro o
  refine ⟨(), o + utf8Length name.toList, ?_, trivial⟩
  simp [word, token, silent, takeSome_append run ends]

theorem fails_word (run : IsRun isWordChar text) (ends : Ends isWordChar rest)
    (other : text ≠ name.toList) : (word r name).Fails (text ++ rest) := by
  intro o
  simp [word, token, silent, takeSome_append run ends, other]

theorem reads_identifier (h : IsIdentifier name) (ends : Ends isWordChar rest) :
    identifier.Reads (name.toList ++ rest) rest fun found => found = name := by
  intro o
  refine ⟨name, o + utf8Length name.toList, ?_, rfl⟩
  have taken := takeSome_append h.isRun ends o
  have noDigit := h.not_isDigit []
  obtain ⟨c, others, eq, -⟩ := h.first
  have whole : String.ofList (c :: others) = name := by rw [← eq, String.ofList_toList]
  rw [List.append_nil, eq] at noDigit
  rw [eq] at taken ⊢
  simp only [identifier, token, silent, read_rule, taken, whole, noDigit c rfl, h.noKeyword,
    decide_false, Bool.or_self, Bool.false_eq_true, if_false]

theorem reads_fieldName (h : IsFieldName name) (ends : Ends isWordChar rest) :
    fieldName.Reads (name.toList ++ rest) rest fun found => found = name := by
  intro o
  refine ⟨name, o + utf8Length name.toList, ?_, rfl⟩
  simp [fieldName, token, silent, takeSome_append h.isRun ends]

theorem reads_int (run : IsRun Char.isDigit text) (ends : Ends Char.isDigit rest) :
    int.Reads (text ++ rest) rest fun found => found = text :=
  fun o => ⟨text, _, takeSome_append run ends o, rfl⟩

theorem fails_int (ends : Ends Char.isDigit text) : int.Fails text :=
  fun o => takeSome_eq_none ends o

theorem fails_float (ends : Ends Char.isDigit text) : float.Fails text := by
  intro o
  simp [float, token, silent, takeSome_eq_none ends]

theorem fails_float_of_int (run : IsRun Char.isDigit text) (ends : Ends Char.isDigit (')' :: rest)) :
    float.Fails (text ++ ')' :: rest) := by
  intro o
  simp [float, token, silent, takeSome_append run ends, Cursor.strip?]

theorem untilQuote_escape (text rest : List Char) :
    untilQuote '"' (Printer.escape text ++ '"' :: rest) = (Printer.escape text, '"' :: rest) := by
  induction text with
  | nil => rfl
  | cons c text ih =>
    rw [Printer.escape]
    split
    · simp [untilQuote, ih]
    case isFalse plain =>
      have noQuote : c ≠ '"' := fun same => plain (.inl same)
      have noEscape : c ≠ '\\' := fun same => plain (.inr same)
      simp [untilQuote, ih, noQuote, noEscape]

theorem unescape_escape (text : List Char) : unescape (Printer.escape text) = text := by
  induction text with
  | nil => rfl
  | cons c text ih =>
    rw [Printer.escape]
    split
    case isTrue special =>
      rcases special with rfl | rfl <;> simp [unescape, ih]
    case isFalse plain =>
      have noEscape : c ≠ '\\' := fun same => plain (.inr same)
      simp [unescape, ih, noEscape]

theorem reads_string (s : String) (rest : List Char) :
    string.Reads ('"' :: (Printer.escape s.toList ++ '"' :: rest)) rest fun found => found = s := by
  apply Reads.rule
  apply Reads.left
  refine (reads_exact ['"'] (Printer.escape s.toList ++ '"' :: rest)).bind fun _ _ => ?_
  refine Reads.bind (?_ : Reads _ _ ('"' :: rest) fun taken => taken = Printer.escape s.toList) ?_
  · intro o
    refine ⟨_, o + utf8Length (Printer.escape s.toList), ?_, rfl⟩
    simp only [token, silent, read_rule, untilQuote_escape]
  · rintro _ rfl
    refine (reads_exact ['"'] rest).bind fun _ _ => .pure ?_
    rw [unescape_escape, String.ofList_toList]

theorem fails_string (h : ∀ c ∈ text.head?, c ≠ '"' ∧ c ≠ '\'') : string.Fails text :=
  .rule _ (.either (fails_exact fun c known => (h c known).1).bind
    (fails_exact fun c known => (h c known).2).bind)

end Token

section

variable {ι α : Type} {p : Reader Rule α} {each : ι → List Char} {R : ι → α → Prop}
  {items : List ι} {limit : Nat} {rest : List Char}

/-- What comes after a text between commas: the next one, or what comes after all. -/
theorem follows_of_commas (follow : List Char → Prop) (comma : ∀ text, follow (',' :: text))
    (last : follow rest) (others : List ι) :
    follow (others.flatMap (fun item => ',' :: ' ' :: each item) ++ rest) := by
  cases others with
  | nil => exact last
  | cons item others => exact comma _

theorem reads_separated {item : ι} (follow : List Char → Prop)
    (comma : ∀ text, follow (',' :: text)) (last : follow rest)
    (fits : items.length ≤ limit) (ends : (exact [','] : Reader Rule Unit).Fails (skip rest))
    (reads : ∀ i ∈ item :: items, ∀ text, follow text →
      p.Reads (skip (each i ++ text)) (skip text) (R i)) :
    (separated limit p).Reads (skip (Printer.commas ((item :: items).map each) ++ rest)) (skip rest)
      (List.Forall₂ R (item :: items)) := by
  obtain ⟨first, later⟩ := List.forall_mem_cons.mp reads
  have others : (many limit do space; exact [',']; space; p).Reads
      (skip (items.flatMap (fun i => ',' :: ' ' :: each i) ++ rest)) (skip rest)
      (List.Forall₂ R items) := by
    refine reads_many fits ?_ fun i member others => ?_
    · apply fails_after_space
      rw [skip_skip]
      exact ends.bind
    · apply Reads.spaced
      rw [skip_skip]
      refine (reads_exact [','] _).bind fun _ _ => Reads.spaced ?_
      exact later i member _ (follows_of_commas follow comma last others)
  rw [List.map_cons, Printer.commas, List.flatMap_map, List.append_assoc]
  refine (first _ (follows_of_commas follow comma last items)).bind fun found holds => Reads.spaced ?_
  rw [skip_skip]
  exact others.thenPure fun found all => .cons holds all

/-- Maybe no text at all. -/
theorem reads_listed (follow : List Char → Prop) (comma : ∀ text, follow (',' :: text))
    (last : follow rest) (fits : items.length ≤ limit + 1) (fails : p.Fails (skip rest))
    (ends : (exact [','] : Reader Rule Unit).Fails (skip rest))
    (reads : ∀ i ∈ items, ∀ text, follow text → p.Reads (skip (each i ++ text)) (skip text) (R i)) :
    (listed limit p).Reads (skip (Printer.commas (items.map each) ++ rest)) (skip rest)
      (List.Forall₂ R items) := by
  cases items with
  | nil =>
    refine (Reads.absent_of_fails fails.bind).thenPure ?_
    rintro _ rfl
    exact .nil
  | cons item items =>
    have fits := Nat.le_of_succ_le_succ fits
    refine (reads_separated follow comma last fits ends reads).optional.thenPure ?_
    rintro _ ⟨found, rfl, all⟩
    exact all

end

theorem length_commas (texts : List (List Char)) : texts.length ≤ (Printer.commas texts).length + 1 := by
  cases texts with
  | nil => exact Nat.zero_le _
  | cons first texts =>
    have others : texts.length ≤ (texts.flatMap fun text => ',' :: ' ' :: text).length := by
      induction texts with
      | nil => exact Nat.zero_le _
      | cons text texts ih =>
        simp only [List.flatMap_cons, List.length_append, List.length_cons]
        omega
    simp only [Printer.commas, List.length_append, List.length_cons]
    omega

theorem length_le_commas {text : List Char} {texts : List (List Char)} (member : text ∈ texts) :
    text.length ≤ (Printer.commas texts).length := by
  cases texts with
  | nil => cases member
  | cons first texts =>
    rw [Printer.commas, List.length_append]
    rcases List.mem_cons.mp member with rfl | member
    · omega
    · have inside : text.length + 2 ≤ (texts.flatMap fun text => ',' :: ' ' :: text).length := by
        obtain ⟨before, after, rfl⟩ := List.append_of_mem member
        simp only [List.flatMap_append, List.flatMap_cons, List.length_append, List.length_cons]
        omega
      omega

end TemplateEngine
