import TemplateEngine.Text.Html

/-!
# Texts composed of given and of escaped pieces

Output is safe if every piece of it is a text of a template or has been escaped.
Whatever has a meaning in HTML then comes from a template: the four characters
of markup, and every `&` that does not start an entity.
-/

namespace TemplateEngine

/-- What follows the `&` of the entities that escaping makes. -/
def Text.entityTails : List (List Char) :=
  ["amp;".toList, "lt;".toList, "gt;".toList, "quot;".toList, "#x27;".toList]

theorem Text.entityTails_htmlEntity (d : Char) {before after : List Char}
    (h : htmlEntity d = before ++ '&' :: after) : after ∈ entityTails := by
  have tail {rest : List Char} (fresh : '&' ∉ rest) (e : '&' :: rest = before ++ '&' :: after) :
      after = rest := by
    cases before with
    | nil => exact ((List.cons.inj e).2).symm
    | cons first others =>
      obtain ⟨-, inside⟩ := List.cons.inj e
      exact absurd (inside ▸ List.mem_append_right others (List.mem_cons_self ..)) fresh
  unfold htmlEntity at h
  split at h
  case h_6 other _ _ _ _ =>
    rcases before with _ | ⟨first, others⟩
    · exact absurd (List.cons.inj h).1 (by assumption)
    · simp at h
  all_goals
    rw [tail (by decide) h]
    decide

/-- Escaped text has none of the characters of markup. -/
theorem Text.escapeHtml_markup_free {u : String} {c : Char} (h : c ∈ (escapeHtml u).toList) :
    c ≠ '<' ∧ c ≠ '>' ∧ c ≠ '"' ∧ c ≠ '\'' := by
  rw [toList_escapeHtml] at h
  obtain ⟨d, -, member⟩ := List.mem_flatMap.mp h
  exact htmlEntity_markup_free d c member

/-- In escaped text every `&` starts an entity. -/
theorem Text.escapeHtml_entity {u : String} {before after : List Char}
    (h : (escapeHtml u).toList = before ++ '&' :: after) : ∃ tail ∈ entityTails, tail <+: after := by
  rw [toList_escapeHtml] at h
  generalize u.toList = chars at h
  induction chars generalizing before with
  | nil => simp at h
  | cons d rest ih =>
    rw [List.flatMap_cons] at h
    rcases List.append_eq_append_iff.mp h with ⟨skipped, rfl, inside⟩ | ⟨kept, here, inside⟩
    · exact ih inside
    · cases kept with
      | nil =>
        have later : rest.flatMap htmlEntity = [] ++ '&' :: after := inside.symm
        exact ih later
      | cons first others =>
        obtain ⟨rfl, rfl⟩ := List.cons.inj inside
        exact ⟨others, entityTails_htmlEntity d here, List.prefix_append _ _⟩

/-- The text is made of given texts and of escaped ones. -/
def Composed (texts : String → Prop) (s : String) : Prop :=
  ∃ pieces, s = String.join pieces ∧ ∀ piece ∈ pieces, texts piece ∨ ∃ u, piece = Text.escapeHtml u

namespace Composed

variable {texts : String → Prop} {s : String}

theorem of_text (h : texts s) : Composed texts s :=
  ⟨[s], by simp, fun piece member => .inl (by rwa [List.mem_singleton.mp member])⟩

theorem of_escaped (u : String) : Composed texts (Text.escapeHtml u) :=
  ⟨[Text.escapeHtml u], by simp, fun piece member => .inr ⟨u, List.mem_singleton.mp member⟩⟩

theorem join {parts : List String} (h : ∀ part ∈ parts, Composed texts part) :
    Composed texts (String.join parts) := by
  induction parts with
  | nil => exact ⟨[], rfl, nofun⟩
  | cons part rest ih =>
    obtain ⟨front, part_eq, front_ok⟩ := h part (List.mem_cons_self ..)
    obtain ⟨back, rest_eq, back_ok⟩ := ih fun p member => h p (List.mem_cons_of_mem _ member)
    refine ⟨front ++ back, ?_, ?_⟩
    · rw [String.join_cons, part_eq, rest_eq, String.join_append]
    · intro piece member
      exact (List.mem_append.mp member).elim (front_ok piece) (back_ok piece)

/-- What has a meaning in HTML stands in one of the given texts. -/
theorem markup (h : Composed texts s) {before after : List Char} {c : Char}
    (split : s.toList = before ++ c :: after)
    (meaning : c ∈ ['<', '>', '"', '\''] ∨
      c = '&' ∧ ∀ tail ∈ Text.entityTails, ¬ tail <+: after) :
    ∃ t x y, texts t ∧ t.toList = x ++ c :: y ∧ x <:+ before ∧ y <+: after := by
  obtain ⟨pieces, rfl, ok⟩ := h
  rw [String.toList_join] at split
  induction pieces generalizing before with
  | nil => simp at split
  | cons piece rest ih =>
    rw [List.flatMap_cons] at split
    have later : ∀ p ∈ rest, texts p ∨ ∃ u, p = Text.escapeHtml u :=
      fun p member => ok p (List.mem_cons_of_mem _ member)
    have found_later {skipped before' : List Char} (e : before = skipped ++ before')
        (inside : rest.flatMap String.toList = before' ++ c :: after) :
        ∃ t x y, texts t ∧ t.toList = x ++ c :: y ∧ x <:+ before ∧ y <+: after := by
      obtain ⟨t, x, y, given, whole, behind, ahead⟩ := ih later inside
      exact ⟨t, x, y, given, whole, e ▸ behind.trans (List.suffix_append _ _), ahead⟩
    rcases List.append_eq_append_iff.mp split with ⟨before', e, inside⟩ | ⟨kept, here, inside⟩
    · exact found_later e inside
    · cases kept with
      | nil =>
        have none : before = piece.toList ++ [] := by simpa using here.symm
        exact found_later none inside.symm
      | cons first others =>
        obtain ⟨rfl, rfl⟩ := List.cons.inj inside
        rcases ok piece (List.mem_cons_self ..) with given | ⟨u, rfl⟩
        · exact ⟨piece, before, others, given, here, List.suffix_refl _, List.prefix_append _ _⟩
        · rcases meaning with plain | ⟨rfl, none⟩
          · have member : c ∈ (Text.escapeHtml u).toList := by simp [here]
            have free := Text.escapeHtml_markup_free member
            simp only [List.mem_cons, List.not_mem_nil, or_false] at plain
            grind
          · obtain ⟨tail, known, ahead⟩ := Text.escapeHtml_entity here
            exact absurd (ahead.trans (List.prefix_append _ _)) (none tail known)

end Composed
end TemplateEngine
