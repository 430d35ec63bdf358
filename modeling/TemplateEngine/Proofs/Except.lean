/-!
# Results of computations that can fail
-/

namespace TemplateEngine

variable {ε α β γ : Type}

/-- Two computations in a row succeed if each does. -/
theorem bind_eq_ok {x : Except ε α} {f : α → Except ε β} {b : β} :
    (x >>= f) = .ok b ↔ ∃ a, x = .ok a ∧ f a = .ok b := by
  cases x with
  | error e => exact ⟨nofun, nofun⟩
  | ok a => exact ⟨fun h => ⟨a, rfl, h⟩, fun ⟨_, h, h'⟩ => by cases h; exact h'⟩

/-- Two computations in a row fail if one of them does. -/
theorem bind_eq_error {x : Except ε α} {f : α → Except ε β} {e : ε} :
    (x >>= f) = .error e ↔ x = .error e ∨ ∃ a, x = .ok a ∧ f a = .error e := by
  cases x with
  | error e' => exact ⟨fun h => .inl (by cases h; rfl), fun h => by rcases h with h | ⟨_, h, _⟩ <;> cases h; rfl⟩
  | ok a => exact ⟨fun h => .inr ⟨a, rfl, h⟩, fun h => by rcases h with h | ⟨_, h, h'⟩ <;> cases h; exact h'⟩

section

variable {x : Except ε α} {y : Except ε β} {f : α → β → γ}

/-- What two results are put together to is there if both of them are. -/
theorem both_eq_ok {c : γ} :
    (do let a ← x; let b ← y; return f a b) = .ok c ↔ ∃ a b, x = .ok a ∧ y = .ok b ∧ f a b = c := by
  constructor
  · intro whole
    obtain ⟨a, first, rest⟩ := bind_eq_ok.mp whole
    obtain ⟨b, second, ⟨⟩⟩ := bind_eq_ok.mp rest
    exact ⟨a, b, first, second, rfl⟩
  · rintro ⟨a, b, rfl, rfl, rfl⟩
    rfl

theorem error_of_both {e : ε} (failed : (do let a ← x; let b ← y; return f a b) = .error e) :
    x = .error e ∨ y = .error e := by
  rcases bind_eq_error.mp failed with first | ⟨a, -, rest⟩
  · exact .inl first
  · rcases bind_eq_error.mp rest with second | ⟨_, _, ⟨⟩⟩
    exact .inr second

end

/-- A check in front of a computation has to succeed. -/
theorem check_bind_eq_ok {x : Except ε Unit} {f : Unit → Except ε β} {b : β} :
    (x >>= f) = .ok b ↔ x = .ok () ∧ f () = .ok b := by
  cases x with
  | error e => exact ⟨nofun, nofun⟩
  | ok a => exact ⟨fun h => ⟨rfl, h⟩, fun h => h.2⟩

theorem map_eq_ok {x : Except ε α} {f : α → β} {b : β} : x.map f = .ok b ↔ ∃ a, x = .ok a ∧ f a = b := by
  cases x with
  | error e => exact ⟨nofun, nofun⟩
  | ok a => simp [Except.map]

theorem eq_ok_of_toOption {x : Except ε α} {a : α} (h : x.toOption = some a) : x = .ok a := by
  cases x with
  | error e => cases h
  | ok b => exact congrArg _ (Option.some.inj h)

/-- Two results are the same error, or their values are related. -/
inductive ExceptRel (r : α → β → Prop) : Except ε α → Except ε β → Prop
  | error (e) : ExceptRel r (.error e) (.error e)
  | ok {a b} : r a b → ExceptRel r (.ok a) (.ok b)

end TemplateEngine
