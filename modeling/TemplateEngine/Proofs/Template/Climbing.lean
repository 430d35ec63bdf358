import TemplateEngine.Proofs.Template.Respects

/-!
# Precedence climbing

The other way to read a chain is by descent: a reader with a bound takes an operand and
then operators as long as they are stronger than the bound. What follows a prefix operator
is read with a bound right below its strength, what follows an infix operator with its
strength as the bound. So it gets the one tree that respects the strengths.
-/

namespace TemplateEngine.Precedence

variable {α π σ ω : Type}

/-- All operators have strengths, and suffixes are the strongest. -/
structure Strength.Below (s : Strength π ω) (top : Nat) : Prop where
  distinct : s.Distinct
  before : ∀ op, 0 < s.before op ∧ s.before op ≤ top
  between : ∀ op, 0 < s.between op ∧ s.between op < top

/-- How strong the next lexeme binds what is in front of it; the end does not. -/
def bindingOf (s : Strength π ω) (top : Nat) : List (Lexeme α π σ ω) → Option Nat
  | [] => some 0
  | .after _ :: _ => some top
  | .between op :: _ => some (s.between op)
  | .operand _ :: _ | .before _ :: _ => none

mutual

/-- From these lexemes a tree is read with a bound, and these are left. -/
inductive Climbs (s : Strength π ω) (top : Nat) :
    Nat → List (Lexeme α π σ ω) → Tree α π σ ω → List (Lexeme α π σ ω) → Prop
  | operand {bound a xs t rest} : Extends s top bound (.operand a) xs t rest →
      Climbs s top bound (.operand a :: xs) t rest
  | before {bound op xs operand ys t rest} : Climbs s top (s.before op - 1) xs operand ys →
      Extends s top bound (.before op operand) ys t rest →
      Climbs s top bound (.before op :: xs) t rest

/-- A tree that was read goes on, with a bound, to a larger one. -/
inductive Extends (s : Strength π ω) (top : Nat) :
    Nat → Tree α π σ ω → List (Lexeme α π σ ω) → Tree α π σ ω → List (Lexeme α π σ ω) → Prop
  | stop {bound t xs n} : bindingOf s top xs = some n → n ≤ bound → Extends s top bound t xs t xs
  | after {bound left x xs t rest} : bound < top → Extends s top bound (.after left x) xs t rest →
      Extends s top bound left (.after x :: xs) t rest
  | between {bound left op xs right ys t rest} : bound < s.between op →
      Climbs s top (s.between op) xs right ys →
      Extends s top bound (.between op left right) ys t rest →
      Extends s top bound left (.between op :: xs) t rest

end

variable {s : Strength π ω} {top bound n k : Nat} {t t' right : Tree α π σ ω}
  {xs rest : List (Lexeme α π σ ω)}

/-- What comes next ends all operators of the right edge. -/
def Ends (s : Strength π ω) (t : Tree α π σ ω) : List (Lexeme α π σ ω) → Prop
  | .after _ :: _ => t.IsCore
  | .between op :: _ => ∀ n ∈ t.rightEdge s, s.between op ≤ n
  | _ => True

/-- A tree read up to some lexemes, with operators that are closer than the bound. -/
structure Upto (s : Strength π ω) (bound : Nat) (t : Tree α π σ ω) (rest : List (Lexeme α π σ ω)) :
    Prop where
  respects : t.Respects s
  closer : ∀ n ∈ t.leftEdge s, bound < n
  ends : Ends s t rest

/-- What comes next is too weak for the bound. -/
def Weak (s : Strength π ω) (top bound : Nat) (rest : List (Lexeme α π σ ω)) : Prop :=
  ∃ n, bindingOf s top rest = some n ∧ n ≤ bound

theorem ends_of_isCore (core : t.IsCore) (xs : List (Lexeme α π σ ω)) : Ends s t xs := by
  unfold Ends
  split
  · exact core
  · rw [Tree.rightEdge_of_isCore core]
    exact nofun
  · trivial

/-- What is too weak for the right operand of an operator ends that operator too. -/
theorem Ends.extend (h : Ends s right rest) (weak : Weak s top bound rest) (low : bound < top)
    (edge : t.rightEdge s = k :: right.rightEdge s) (le : bound ≤ k) : Ends s t rest := by
  obtain ⟨n, binding, weak⟩ := weak
  unfold Ends at h ⊢
  split
  · cases binding
    exact absurd low (Nat.not_lt.mpr weak)
  · cases binding
    rw [edge]
    exact List.forall_mem_cons.mpr ⟨Nat.le_trans weak le, h⟩
  · trivial

theorem Tree.exists_of_mem_leftEdge (member : n ∈ t.leftEdge s) : ∃ op, n = s.between op := by
  induction t with
  | operand | before => cases member
  | after t x ih => exact ih member
  | between op left right ih _ =>
    rcases List.mem_cons.mp member with rfl | inside
    · exact ⟨op, rfl⟩
    · exact ih inside

mutual

theorem Climbs.sound (strengths : s.Below top) :
    ∀ {bound : Nat} {xs : List (Lexeme α π σ ω)} {t rest}, Climbs s top bound xs t rest →
      xs = t.lexemes ++ rest ∧ Upto s bound t rest ∧ Weak s top bound rest
  | _, _, _, _, .operand goes =>
    goes.sound strengths ⟨trivial, nofun, ends_of_isCore (by trivial) _⟩
  | _, .before op :: _, _, _, .before inner goes => by
    obtain ⟨rfl, ⟨respects, closer, ends⟩, weak⟩ := inner.sound strengths
    obtain ⟨pos, le⟩ := strengths.before op
    refine goes.sound strengths ⟨⟨respects, ?_⟩, nofun, ?_⟩
    · intro n member
      have more := closer n member
      obtain ⟨op', rfl⟩ := Tree.exists_of_mem_leftEdge member
      have other := strengths.distinct op op'
      omega
    · exact ends.extend weak (by omega) rfl (by omega)

theorem Extends.sound (strengths : s.Below top) :
    ∀ {bound : Nat} {left : Tree α π σ ω} {xs t rest}, Extends s top bound left xs t rest →
      Upto s bound left xs →
      left.lexemes ++ xs = t.lexemes ++ rest ∧ Upto s bound t rest ∧ Weak s top bound rest
  | _, _, _, _, _, .stop binding weak, upto => ⟨rfl, upto, _, binding, weak⟩
  | _, _, _, _, _, .after stronger goes, ⟨respects, closer, core⟩ => by
    have whole := goes.sound strengths ⟨⟨respects, core⟩, closer, ends_of_isCore (by trivial) _⟩
    rwa [Tree.lexemes, List.append_assoc] at whole
  | _, _, .between op :: _, _, _, .between stronger inner goes, ⟨respects, closer, ends⟩ => by
    obtain ⟨rfl, ⟨respectsr, closerr, endsr⟩, weak⟩ := inner.sound strengths
    obtain ⟨pos, lt⟩ := strengths.between op
    have whole := goes.sound strengths ⟨⟨respects, respectsr, ends, closerr⟩,
      List.forall_mem_cons.mpr ⟨stronger, closer⟩, endsr.extend weak lt rfl (Nat.le_refl _)⟩
    rwa [Tree.lexemes, List.append_assoc] at whole

end

/-- What ends an operator ends its right operand too, and it is an infix operator or the end. -/
theorem Ends.inner (h : Ends s t xs) (core : ¬ t.IsCore)
    (edge : t.rightEdge s = k :: right.rightEdge s) (known : bindingOf s top xs = some n) :
    Ends s right xs ∧ n ≤ k ∧ (n = 0 ∨ ∃ op, n = s.between op) := by
  cases xs with
  | nil =>
    cases known
    exact ⟨trivial, Nat.zero_le k, .inl rfl⟩
  | cons x xs =>
    cases x with
    | operand | before => cases known
    | after => exact absurd h core
    | between op =>
      cases known
      have closer : ∀ n ∈ t.rightEdge s, s.between op ≤ n := h
      rw [edge] at closer
      obtain ⟨here, inside⟩ := List.forall_mem_cons.mp closer
      exact ⟨inside, here, .inr ⟨op, rfl⟩⟩

theorem Climbs.complete (strengths : s.Below top) (low : bound < top) (upto : Upto s bound t xs)
    (known : bindingOf s top xs = some n) (goes : Extends s top bound t xs t' rest) :
    Climbs s top bound (t.lexemes ++ xs) t' rest := by
  induction t generalizing bound xs n t' rest with
  | operand a => exact .operand goes
  | before op t ih =>
    obtain ⟨⟨respects, closer⟩, -, ends⟩ := upto
    obtain ⟨pos, le⟩ := strengths.before op
    obtain ⟨inside, weak, last⟩ := ends.inner id rfl known
    have weak : n ≤ s.before op - 1 := by
      rcases last with rfl | ⟨op', rfl⟩
      · exact Nat.zero_le _
      · have other := strengths.distinct op op'
        omega
    refine .before (ih (by omega) ⟨respects, ?_, inside⟩ known (.stop known weak)) goes
    exact fun m member => Nat.lt_of_le_of_lt (Nat.sub_le _ 1) (closer m member)
  | after t x ih =>
    obtain ⟨⟨respects, core⟩, closer, -⟩ := upto
    rw [Tree.lexemes, List.append_assoc]
    exact ih low ⟨respects, closer, core⟩ rfl (.after low goes)
  | between op left right ihl ihr =>
    obtain ⟨⟨respectsl, respectsr, closerl, closerr⟩, closer, ends⟩ := upto
    obtain ⟨stronger, closer⟩ := List.forall_mem_cons.mp closer
    obtain ⟨inside, weak, -⟩ := ends.inner id rfl known
    rw [Tree.lexemes, List.append_assoc]
    refine ihl low ⟨respectsl, closer, closerl⟩ rfl (.between stronger ?_ goes)
    exact ihr (strengths.between op).2 ⟨respectsr, closerr, inside⟩ known (.stop known weak)

/-- Reading with the bound 0 up to the end gives the tree of a chain, and no other. -/
theorem climbs_iff (strengths : s.Below top) (pos : 0 < top) (c : Chain α π σ ω) :
    Climbs s top 0 c.lexemes t [] ↔ t = c.tree s := by
  constructor
  · intro climbs
    obtain ⟨written, upto, -⟩ := climbs.sound strengths
    rw [List.append_nil, ← c.lexemes_tree s] at written
    exact Tree.eq_of_lexemes strengths.distinct upto.respects (c.respects_tree strengths.distinct)
      written.symm
  · rintro rfl
    have closer : ∀ n ∈ (c.tree s).leftEdge s, 0 < n := by
      intro n member
      obtain ⟨op, rfl⟩ := Tree.exists_of_mem_leftEdge member
      exact (strengths.between op).1
    have upto : Upto s 0 (c.tree s) [] := ⟨c.respects_tree strengths.distinct, closer, trivial⟩
    have ended : bindingOf s top ([] : List (Lexeme α π σ ω)) = some 0 := rfl
    have climbs := Climbs.complete strengths pos upto ended (.stop ended (Nat.le_refl 0))
    rwa [List.append_nil, c.lexemes_tree] at climbs

end TemplateEngine.Precedence
