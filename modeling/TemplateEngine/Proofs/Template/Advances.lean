import TemplateEngine.Template.Piece

/-!
# Readers move forward

Whatever a reader makes of a text, it takes off the front of the text and counts the
bytes that it takes. A rule that fails is put to the account of a place that the reader
has come to. The ways to put readers together keep this, and all readers of the grammar
are put together from a few that do.
-/

namespace TemplateEngine

/-- Some characters lie between two cursors. -/
structure Cursor.Takes (c : Cursor) (taken : List Char) (d : Cursor) : Prop where
  rest : c.rest = taken ++ d.rest
  offset : d.offset = c.offset + utf8Length taken

namespace Cursor

variable {c d e : Cursor} {taken taken' text : List Char}

theorem Takes.refl (c : Cursor) : c.Takes [] c := ⟨rfl, rfl⟩

theorem Takes.trans (h : c.Takes taken d) (h' : d.Takes taken' e) : c.Takes (taken ++ taken') e where
  rest := by rw [h.rest, h'.rest, List.append_assoc]
  offset := by rw [h'.offset, h.offset, utf8Length_append, Nat.add_assoc]

theorem takes_takeWhile (test : Char → Bool) (c : Cursor) :
    c.Takes (c.takeWhile test).1 (c.takeWhile test).2 :=
  ⟨List.takeWhile_append_dropWhile.symm, rfl⟩

theorem takes_strip? (h : c.strip? text = some d) : c.Takes text d := by
  unfold strip? at h
  split at h
  case isTrue starts =>
    cases h
    obtain ⟨rest, eq⟩ := List.isPrefixOf_iff_prefix.mp starts
    exact ⟨by simp [← eq], rfl⟩
  case isFalse => cases h

/-- The place is some characters ahead of the cursor. -/
def Ahead (c : Cursor) (place : Nat) : Prop := ∃ taken d, c.Takes taken d ∧ d.offset = place

theorem Ahead.of_takes {place : Nat} (h : c.Takes taken d) (ahead : d.Ahead place) :
    c.Ahead place := by
  obtain ⟨more, e, later, same⟩ := ahead
  exact ⟨taken ++ more, e, h.trans later, same⟩

end Cursor

namespace Attempts

variable {ρ : Type} {c d : Cursor} {taken : List Char} {t t' t'' : Attempts ρ}

/-- The farthest failure is the one that it was, or it is ahead of the cursor. -/
def Follows (c : Cursor) (t t' : Attempts ρ) : Prop := t'.place = t.place ∨ c.Ahead t'.place

theorem Follows.refl (c : Cursor) (t : Attempts ρ) : Follows c t t := .inl rfl

theorem Follows.trans (h : Follows c t t') (h' : Follows c t' t'') : Follows c t t'' := by
  rcases h' with same | ahead
  · rcases h with same' | ahead
    · exact .inl (same.trans same')
    · exact .inr (same ▸ ahead)
  · exact .inr ahead

theorem Follows.of_takes (front : c.Takes taken d) (h : Follows d t t') : Follows c t t' :=
  h.imp_right (Cursor.Ahead.of_takes front)

theorem place_fail (t : Attempts ρ) (r : ρ) (place : Nat) (before : Attempts ρ) :
    (t.fail r place before).place = t.place ∨ (t.fail r place before).place = place := by
  unfold fail
  split
  · exact .inl rfl
  · split
    · exact .inr rfl
    · split
      · exact .inr rfl
      · exact .inl rfl

theorem follows_fail (c : Cursor) (t : Attempts ρ) (r : ρ) (before : Attempts ρ) :
    Follows c t (t.fail r c.offset before) :=
  (place_fail t r c.offset before).imp_right fun same => ⟨[], c, .refl c, same.symm⟩

end Attempts

namespace Reader

variable {ρ α β : Type}

/-- The reader takes what it reads off the front of a text, and fails at places that it comes to. -/
class Advances (p : Reader ρ α) : Prop where
  takes : ∀ {c a d}, p.read c = some (a, d) → ∃ taken, c.Takes taken d
  fails : ∀ c t, Attempts.Follows c t (p.attempts c t)

variable {p q : Reader ρ α} {next : α → Reader ρ β} {limit : Nat}

theorem advances_silent {read : Cursor → Option (α × Cursor)}
    (h : ∀ {c a d}, read c = some (a, d) → ∃ taken, c.Takes taken d) :
    Advances (silent read : Reader ρ α) :=
  ⟨h, fun c t => .refl c t⟩

instance (a : α) : Advances (pure a : Reader ρ α) := advances_silent <| by
  rintro c _ _ ⟨⟩
  exact ⟨[], .refl c⟩

theorem read_bind_eq_some {c d : Cursor} {b : β} (h : (p >>= next).read c = some (b, d)) :
    ∃ a c', p.read c = some (a, c') ∧ (next a).read c' = some (b, d) := by
  rw [read_bind] at h
  obtain ⟨⟨a, c'⟩, first, later⟩ := Option.bind_eq_some_iff.mp h
  exact ⟨a, c', first, later⟩

instance [Advances p] [∀ a, Advances (next a)] : Advances (p >>= next) where
  takes h := by
    obtain ⟨a, c', first, later⟩ := read_bind_eq_some h
    obtain ⟨taken, front⟩ := Advances.takes first
    obtain ⟨taken', back⟩ := Advances.takes later
    exact ⟨taken ++ taken', front.trans back⟩
  fails c t := by
    have here := Advances.fails (p := p) c t
    show Attempts.Follows c t (Reader.bind p next |>.attempts c t)
    rw [Reader.bind]
    dsimp only
    cases first : p.read c with
    | none => exact here
    | some r =>
      obtain ⟨taken, front⟩ := Advances.takes first
      exact here.trans ((Advances.fails r.2 _).of_takes front)

instance [Advances p] [Advances q] : Advances (either p q) where
  takes {c a d} h := by
    rw [either] at h
    dsimp only at h
    cases first : p.read c with
    | none =>
      rw [first] at h
      exact Advances.takes h
    | some r =>
      rw [first] at h
      cases h
      exact Advances.takes first
  fails c t := by
    have here := Advances.fails (p := p) c t
    rw [either]
    dsimp only
    cases p.read c with
    | none => exact here.trans (Advances.fails c _)
    | some r => exact here

instance : Advances (failure : Reader ρ α) := advances_silent nofun

instance : Advances (firstOf ([] : List (Reader ρ α))) := inferInstanceAs (Advances failure)

instance [here : Advances p] {others : List (Reader ρ α)} [Advances (firstOf others)] :
    Advances (firstOf (p :: others)) := by
  cases others with
  | nil => exact here
  | cons => exact inferInstanceAs (Advances (either _ _))

instance [Advances p] : Advances (optional p) where
  takes {c a d} h := by
    rw [optional] at h
    dsimp only at h
    cases first : p.read c with
    | none =>
      rw [first] at h
      cases h
      exact ⟨[], .refl c⟩
    | some r =>
      rw [first] at h
      cases h
      exact Advances.takes first
  fails := Advances.fails (p := p)

theorem takes_readMany [Advances p] (limit : Nat) (c : Cursor) :
    ∃ taken, c.Takes taken (readMany p.read limit c).2 := by
  induction limit generalizing c with
  | zero => exact ⟨[], .refl c⟩
  | succ limit ih =>
    rw [readMany]
    cases first : p.read c with
    | none => exact ⟨[], .refl c⟩
    | some r =>
      obtain ⟨taken, front⟩ := Advances.takes first
      obtain ⟨taken', back⟩ := ih r.2
      exact ⟨taken ++ taken', front.trans back⟩

theorem follows_attemptMany [Advances p] (limit : Nat) (c : Cursor) (t : Attempts ρ) :
    Attempts.Follows c t (attemptMany p limit c t) := by
  induction limit generalizing c t with
  | zero => exact .refl c t
  | succ limit ih =>
    have here := Advances.fails (p := p) c t
    rw [attemptMany]
    cases first : p.read c with
    | none => exact here
    | some r =>
      obtain ⟨taken, front⟩ := Advances.takes first
      exact here.trans ((ih r.2 _).of_takes front)

instance [Advances p] : Advances (many limit p) where
  takes {c a d} h := by
    obtain ⟨taken, front⟩ := takes_readMany (p := p) limit c
    rw [Option.some.inj h] at front
    exact ⟨taken, front⟩
  fails := follows_attemptMany limit

instance : Advances (space : Reader ρ Unit) := advances_silent <| by
  intro c a d h
  cases h
  exact ⟨_, c.takes_takeWhile Cursor.isSpace⟩

theorem takes_exact {text : List Char} {c d : Cursor} {u : Unit}
    (h : (exact text : Reader ρ Unit).read c = some (u, d)) : c.Takes text d := by
  obtain ⟨d', stripped, same⟩ := Option.map_eq_some_iff.mp h
  cases same
  exact Cursor.takes_strip? stripped

instance (text : List Char) : Advances (exact text : Reader ρ Unit) :=
  advances_silent fun h => ⟨text, takes_exact (ρ := ρ) h⟩

instance (text : List Char) : Advances (absent text : Reader ρ Unit) := advances_silent <| by
  intro c a d h
  split at h
  · cases h
  · cases h
    exact ⟨[], .refl c⟩

instance (r : ρ) [h : Advances p] : Advances (rule r p) where
  takes := h.takes
  fails c t := by
    have here := h.fails c t
    rw [rule]
    dsimp only
    cases p.read c with
    | none => exact here.trans (Attempts.follows_fail c _ r t)
    | some r => exact here

theorem advances_token (r : ρ) {read : Cursor → Option (α × Cursor)}
    (h : ∀ {c a d}, read c = some (a, d) → ∃ taken, c.Takes taken d) : Advances (token r read) :=
  have := advances_silent (ρ := ρ) h
  inferInstanceAs (Advances (rule r (silent read)))

instance [Advances p] : Advances (spanned p) where
  takes {c a d} h := by
    rw [spanned] at h
    dsimp only at h
    cases first : p.read c with
    | none =>
      rw [first] at h
      cases h
    | some r =>
      rw [first] at h
      cases h
      exact Advances.takes first
  fails := Advances.fails (p := p)

instance [Advances p] : Advances (separated limit p) := by unfold separated; infer_instance

instance [Advances p] : Advances (listed limit p) := by unfold listed; infer_instance

end Reader

namespace Token

open Reader

variable {c d : Cursor} {taken : List Char}

theorem takes_takeSome {test : Char → Bool} (h : takeSome test c = some (taken, d)) :
    c.Takes taken d := by
  have whole := c.takes_takeWhile test
  unfold takeSome at h
  split at h
  · cases h
  · rwa [Option.some.inj h] at whole

instance (r : Rule) (text : String) : Advances (word r text) := advances_token r <| by
  intro c a d h
  split at h
  case h_1 taken d' read =>
    split at h
    · cases h
      exact ⟨taken, takes_takeSome read⟩
    · cases h
  case h_2 => cases h

instance : Advances identifier := advances_token _ <| by
  intro c a d h
  split at h
  case h_1 first rest d' read =>
    dsimp only at h
    split at h
    · cases h
    · cases h
      exact ⟨_, takes_takeSome read⟩
  case h_2 => cases h

instance : Advances fieldName := advances_token _ <| by
  intro c a d h
  obtain ⟨⟨taken, d'⟩, read, same⟩ := Option.map_eq_some_iff.mp h
  cases same
  exact ⟨taken, takes_takeSome read⟩

instance : Advances float := advances_token _ <| by
  intro c a d h
  split at h
  · cases h
  case h_2 whole c₁ first =>
    split at h
    · cases h
    case h_2 c₂ point =>
      obtain ⟨⟨fraction, d'⟩, last, same⟩ := Option.map_eq_some_iff.mp h
      cases same
      exact ⟨_, ((takes_takeSome first).trans (Cursor.takes_strip? point)).trans (takes_takeSome last)⟩

instance : Advances int := advances_token _ fun h => ⟨_, takes_takeSome h⟩

theorem untilQuote_append (quote : Char) (cs : List Char) :
    (untilQuote quote cs).1 ++ (untilQuote quote cs).2 = cs := by
  fun_induction untilQuote quote cs with
  | case1 => rfl
  | case2 => rfl
  | case3 c rest taken left eq ih => simp_all
  | case4 c => rfl
  | case5 c rest other different taken left eq ih => simp_all

instance (quote : Char) : Advances (quotedBy quote) := by
  have inner : Advances (.token Rule.quotedText fun c =>
      let (taken, left) := untilQuote quote c.rest
      some (taken, (⟨left, c.offset + utf8Length taken⟩ : Cursor))) := advances_token _ <| by
    intro c a d h
    cases h
    exact ⟨_, (untilQuote_append quote c.rest).symm, rfl⟩
  unfold quotedBy
  infer_instance

instance : Advances string := by unfold string; infer_instance

end Token

-- An instance for a reader takes one step for each part that it is put together from.
set_option synthInstance.maxSize 1000

namespace Expression

open Reader

variable {α β : Type} {limit : Nat} {inner : Reader Rule (Checked Expr)}

instance : Advances intLiteral := by unfold intLiteral; infer_instance

instance : Advances unaryOp := by unfold unaryOp sign; infer_instance

instance : Advances infixOp := by unfold infixOp signOrWord sign; infer_instance

instance [Advances inner] : Advances (suffix limit inner) := by unfold suffix; infer_instance

instance [Advances inner] : Advances (listLiteral limit inner) := by
  unfold listLiteral
  infer_instance

instance [Advances inner] : Advances (grouped inner) := by unfold grouped; infer_instance

instance (r : Rule) (text : String) (l : Literal) : Advances (constantWord r text l) := by
  unfold constantWord
  infer_instance

instance [Advances inner] : Advances (operand limit inner) := by unfold operand; infer_instance

instance [Advances inner] : Advances (term limit inner) := by unfold term; infer_instance

instance [Advances inner] : Advances (continued limit inner) := by
  unfold continued
  infer_instance

instance [Advances inner] : Advances (chain limit inner) := by unfold chain; infer_instance

instance [Advances inner] : Advances (body limit inner) := by unfold body; infer_instance

instance (limit depth : Nat) : Advances (reader limit depth) := by
  induction depth with
  | zero => exact inferInstanceAs (Advances failure)
  | succ depth ih =>
    have level : Advances (body limit (reader limit depth)) := inferInstance
    exact ⟨level.takes, level.fails⟩

end Expression

namespace Piece

open Reader

variable (limit : Nat)

instance : Advances (expression limit) := by unfold expression; infer_instance

instance (r kw : Rule) (text : String) (make : Checked Expr → Tag) :
    Advances (testTag limit r kw text make) := by
  unfold testTag
  infer_instance

instance : Advances (foreachTag limit) := by unfold foreachTag; infer_instance

instance : Advances (setTag limit) := by unfold setTag; infer_instance

instance : Advances (macroParams limit) := by unfold macroParams; infer_instance

instance : Advances (macroTag limit) := by unfold macroTag; infer_instance

instance : Advances (includeArg limit) := by unfold includeArg; infer_instance

instance : Advances (includeTag limit) := by unfold includeTag; infer_instance

instance : Advances (directive limit) := by unfold directive; infer_instance

end Piece
end TemplateEngine
