import Mathlib.Data.List.Forall2
import TemplateEngine.Template.Token

/-!
# What readers take off a text

A reader reads a text down to what is left of it, wherever it starts to count, or it
fails there. One lemma for each way to put readers together says what the whole reads
from what its parts read. The blanks that many readers skip are the same for all.
-/

namespace TemplateEngine
namespace Reader

variable {ρ α β : Type}

/-- The reader takes a text off down to `rest`; what it reads has a property. -/
def Reads (p : Reader ρ α) (text rest : List Char) (P : α → Prop) : Prop :=
  ∀ o, ∃ a o', p.read ⟨text, o⟩ = some (a, ⟨rest, o'⟩) ∧ P a

def Fails (p : Reader ρ α) (text : List Char) : Prop := ∀ o, p.read ⟨text, o⟩ = none

/-- The text without the blanks in front of it. -/
def skip (text : List Char) : List Char := text.dropWhile Cursor.isSpace

variable {p q : Reader ρ α} {next : α → Reader ρ β} {text mid rest : List Char} {P P' : α → Prop}
  {Q : β → Prop} {limit : Nat}

theorem skip_cons {c : Char} (h : Cursor.isSpace c = false) : skip (c :: rest) = c :: rest := by
  simp [skip, h]

@[simp] theorem skip_space (rest : List Char) : skip (' ' :: rest) = skip rest := rfl

@[simp] theorem skip_skip (text : List Char) : skip (skip text) = skip text := by
  induction text with
  | nil => rfl
  | cons c text ih =>
    cases h : Cursor.isSpace c with
    | true => simpa [skip, h] using ih
    | false => rw [skip_cons h, skip_cons h]

theorem Reads.imp (h : p.Reads text rest P) (imp : ∀ a, P a → P' a) : p.Reads text rest P' := by
  intro o
  obtain ⟨a, o', read, holds⟩ := h o
  exact ⟨a, o', read, imp a holds⟩

theorem Reads.pure {a : α} (h : P a) : (Pure.pure a : Reader ρ α).Reads text text P :=
  fun o => ⟨a, o, rfl, h⟩

theorem Reads.bind (first : p.Reads text mid P) (later : ∀ a, P a → (next a).Reads mid rest Q) :
    (p >>= next).Reads text rest Q := by
  intro o
  obtain ⟨a, o', read, holds⟩ := first o
  obtain ⟨b, o'', read', holds'⟩ := later a holds o'
  refine ⟨b, o'', ?_, holds'⟩
  rw [read_bind, read]
  exact read'

theorem Reads.rule (r : ρ) (h : p.Reads text rest P) : (rule r p).Reads text rest P := h

theorem Reads.left (h : p.Reads text rest P) : (either p q).Reads text rest P := by
  intro o
  obtain ⟨a, o', read, holds⟩ := h o
  exact ⟨a, o', by simp only [either, read], holds⟩

theorem Reads.right (fails : p.Fails text) (h : q.Reads text rest P) :
    (either p q).Reads text rest P := by
  intro o
  obtain ⟨a, o', read, holds⟩ := h o
  exact ⟨a, o', by simp only [either, fails o, read], holds⟩

theorem Reads.first {others : List (Reader ρ α)} (h : p.Reads text rest P) :
    (firstOf (p :: others)).Reads text rest P := by
  cases others with
  | nil => exact h
  | cons q others => exact h.left

theorem Reads.later {others : List (Reader ρ α)} (fails : p.Fails text)
    (h : (firstOf others).Reads text rest P) : (firstOf (p :: others)).Reads text rest P := by
  cases others with
  | nil =>
    intro o
    obtain ⟨a, o', read, -⟩ := h o
    cases read
  | cons q others => exact .right fails h

theorem Reads.spanned (h : p.Reads text rest P) :
    (spanned p).Reads text rest fun a => P a.1 := by
  intro o
  obtain ⟨a, o', read, holds⟩ := h o
  exact ⟨(a, ⟨o, o'⟩), o', by simp only [Reader.spanned, read], holds⟩

theorem Reads.optional (h : p.Reads text rest P) :
    (Reader.optional p).Reads text rest fun a => ∃ b, a = some b ∧ P b := by
  intro o
  obtain ⟨a, o', read, holds⟩ := h o
  exact ⟨some a, o', by simp only [Reader.optional, read], a, rfl, holds⟩

theorem Reads.absent_of_fails (fails : p.Fails text) :
    (Reader.optional p).Reads text text fun a => a = none :=
  fun o => ⟨none, o, by simp only [Reader.optional, fails o], rfl⟩

theorem reads_space (text : List Char) :
    (space : Reader ρ Unit).Reads text (skip text) fun _ => True :=
  fun _ => ⟨(), _, rfl, trivial⟩

theorem reads_exact (text rest : List Char) :
    (exact text : Reader ρ Unit).Reads (text ++ rest) rest fun _ => True := by
  intro o
  refine ⟨(), o + utf8Length text, ?_, trivial⟩
  simp [exact, silent, Cursor.strip?]

theorem reads_absent (h : ¬ text <+: rest) :
    (absent text : Reader ρ Unit).Reads rest rest fun _ => True :=
  fun o => ⟨(), o, by simp [absent, silent, h], trivial⟩

theorem Fails.bind (fails : p.Fails text) : (p >>= next).Fails text := by
  intro o
  rw [read_bind, fails o]
  rfl

theorem Reads.bind_fails (first : p.Reads text mid P) (fails : ∀ a, P a → (next a).Fails mid) :
    (p >>= next).Fails text := by
  intro o
  obtain ⟨a, o', read, holds⟩ := first o
  rw [read_bind, read]
  exact fails a holds o'

theorem Fails.rule (r : ρ) (fails : p.Fails text) : (rule r p).Fails text := fails

theorem Fails.spanned (fails : p.Fails text) : (spanned p).Fails text := by
  intro o
  simp only [Reader.spanned, fails o]

theorem Fails.either (left : p.Fails text) (right : q.Fails text) : (either p q).Fails text := by
  intro o
  simp only [Reader.either, left o, right o]

/-- Blanks in front make no difference to a reader that skips them. -/
theorem fails_after_space (fails : p.Fails (skip text)) :
    (do space; p : Reader ρ α).Fails text :=
  (reads_space text).bind_fails fun _ _ => fails

theorem fails_exact {c : Char} (h : ∀ d ∈ text.head?, d ≠ c) :
    (exact [c] : Reader ρ Unit).Fails text := by
  intro o
  cases text with
  | nil => rfl
  | cons d text =>
    simp [exact, silent, Cursor.strip?, (h d rfl).symm]

theorem Reads.spaced (h : p.Reads (skip text) rest P) : (do space; p : Reader ρ α).Reads text rest P :=
  (reads_space text).bind fun _ _ => h

theorem Reads.thenPure {f : α → β} (h : p.Reads text rest P) (imp : ∀ a, P a → Q (f a)) :
    (do return f (← p) : Reader ρ β).Reads text rest Q :=
  h.bind fun a holds => .pure (imp a holds)

theorem reads_many_nil (fails : p.Fails text) :
    (many limit p).Reads text text fun items => items = [] := by
  intro o
  refine ⟨[], o, ?_, rfl⟩
  cases limit with
  | zero => rfl
  | succ limit => simp [many, readMany, fails o]

theorem Reads.many_cons {Q : List α → Prop} (first : p.Reads text mid P)
    (others : (many limit p).Reads mid rest Q) :
    (many (limit + 1) p).Reads text rest fun items =>
      ∃ item others, items = item :: others ∧ P item ∧ Q others := by
  intro o
  obtain ⟨item, o', read, holds⟩ := first o
  obtain ⟨items, o'', more, holds'⟩ := others o'
  refine ⟨item :: items, o'', ?_, item, items, rfl, holds, holds'⟩
  simp only [many, Option.some.injEq] at more
  simp only [many, readMany, read, more]

/-- Texts that the reader takes off one after the other, and blanks between them. -/
theorem reads_many {ι : Type} {each : ι → List Char} {R : ι → α → Prop} {items : List ι}
    (fits : items.length ≤ limit) (fails : p.Fails (skip rest))
    (reads : ∀ item ∈ items, ∀ others : List ι,
      p.Reads (skip (each item ++ (others.flatMap each ++ rest)))
        (skip (others.flatMap each ++ rest)) (R item)) :
    (many limit p).Reads (skip (items.flatMap each ++ rest)) (skip rest) (List.Forall₂ R items) := by
  induction items generalizing limit with
  | nil =>
    refine (reads_many_nil fails).imp fun found none => ?_
    rw [none]
    exact .nil
  | cons item items ih =>
    obtain ⟨first, later⟩ := List.forall_mem_cons.mp reads
    obtain ⟨limit, rfl⟩ : ∃ n, limit = n + 1 :=
      Nat.exists_eq_add_one.mpr (Nat.lt_of_lt_of_le (Nat.succ_pos _) fits)
    rw [List.flatMap_cons, List.append_assoc]
    refine ((first items).many_cons (ih (Nat.le_of_succ_le_succ fits) later)).imp ?_
    rintro _ ⟨found, others, rfl, holds, all⟩
    exact .cons holds all

end Reader
end TemplateEngine
