import TemplateEngine.Machine.Basic

/-!
# Where a machine writes to

A text goes to the innermost macro call in progress at any level, and to the
sink if there is none. Nothing else of the machine changes but the counts of
bytes written: `blank` is what stays.
-/

namespace TemplateEngine

/-- The call without what it has captured. -/
def Call.blank (c : Call) : Call := { c with captured := [] }

namespace Level

/-- The level without what its calls have captured and what it has written. -/
def blank (l : Level) : Level := { l with calls := l.calls.map Call.blank, written := 0 }

/-- What the calls in progress have captured, innermost first. -/
def captures (l : Level) : List (List String) := l.calls.map Call.captured

@[simp] theorem blank_pass (l : Level) (text : String) : (l.pass text).blank = l.blank := rfl

@[simp] theorem captures_pass (l : Level) (text : String) : (l.pass text).captures = l.captures := rfl

theorem capture?_eq_none {l : Level} {text : String} (h : l.captures = []) :
    l.capture? text = none := by
  have none : l.calls = [] := List.map_eq_nil_iff.mp h
  simp [capture?, none]

theorem exists_capture? {l : Level} {texts : List String} {rest : List (List String)}
    (text : String) (h : l.captures = texts :: rest) :
    ∃ l', l.capture? text = some l' ∧ l'.captures = (text :: texts) :: rest ∧
      l'.blank = l.blank := by
  obtain ⟨c, calls, eq, rfl, rfl⟩ := List.map_eq_cons_iff.mp h
  refine ⟨{ l with calls := { c with captured := text :: c.captured } :: calls }, ?_, rfl, ?_⟩
  · simp [capture?, eq]
  · simp [blank, eq, Call.blank]

end Level

namespace Waiting

def blank (w : Waiting) : Waiting := { w with level := w.level.blank }

/-- What the calls at the waiting levels have captured, innermost first. -/
def captures (waiting : List Waiting) : List (List String) :=
  waiting.flatMap fun w => w.level.captures

@[simp] theorem map_blank_passAll (text : String) (waiting : List Waiting) :
    (passAll text waiting).map blank = waiting.map blank := by
  simp [passAll, blank]

@[simp] theorem captures_passAll (text : String) (waiting : List Waiting) :
    captures (passAll text waiting) = captures waiting := by
  simp [passAll, captures, List.flatMap_map]

theorem capture?_eq_none {waiting : List Waiting} (text : String) (h : captures waiting = []) :
    capture? text waiting = none := by
  induction waiting with
  | nil => rfl
  | cons w rest ih =>
    have split : w.level.captures ++ captures rest = [] := by simpa [captures] using h
    obtain ⟨here, there⟩ := List.append_eq_nil_iff.mp split
    simp [capture?, Level.capture?_eq_none here, ih there]

theorem exists_capture? {waiting : List Waiting} {texts : List String} {rest : List (List String)}
    (text : String) (h : captures waiting = texts :: rest) :
    ∃ waiting', capture? text waiting = some waiting' ∧
      captures waiting' = (text :: texts) :: rest ∧ waiting'.map blank = waiting.map blank := by
  induction waiting with
  | nil => cases h
  | cons w others ih =>
    have split : w.level.captures ++ captures others = texts :: rest := by
      simpa [captures] using h
    cases here : w.level.captures with
    | nil =>
      rw [here, List.nil_append] at split
      obtain ⟨others', taken, after, same⟩ := ih split
      refine ⟨{ w with level := w.level.pass text } :: others', ?_, ?_, ?_⟩
      · simp [capture?, Level.capture?_eq_none here, taken]
      · simpa [captures, here] using after
      · simp [same, blank]
    | cons first more =>
      rw [here, List.cons_append] at split
      obtain ⟨rfl, rfl⟩ := List.cons.inj split
      obtain ⟨l, taken, after, same⟩ := Level.exists_capture? text here
      refine ⟨{ w with level := l } :: others, ?_, ?_, ?_⟩
      · simp [capture?, taken]
      · simp [captures, after]
      · simp [blank, same]

end Waiting

namespace Machine

variable {ω : Type}

/-- What the macro calls in progress have captured, innermost first. -/
def captures (m : Machine ω) : List (List String) := m.level.captures ++ Waiting.captures m.outer

/-- The machine `m'` differs from `m` in the texts that it has written. -/
structure SameButOutput (m m' : Machine ω) : Prop where
  level : m'.level.blank = m.level.blank
  outer : m'.outer.map Waiting.blank = m.outer.map Waiting.blank
  steps : m'.steps = m.steps
  surroundings : m'.surroundings = m.surroundings

theorem SameButOutput.symm {m m' : Machine ω} (h : m.SameButOutput m') : m'.SameButOutput m :=
  ⟨h.level.symm, h.outer.symm, h.steps.symm, h.surroundings.symm⟩

/-- With no call in progress the sink may refuse a text. -/
theorem write_refused {sink : Sink} {m : Machine ω} {text reason : String} (h : m.captures = [])
    (refused : sink m.accepted text = some reason) : m.write sink text = .error reason := by
  obtain ⟨here, there⟩ := List.append_eq_nil_iff.mp h
  simp [write, Level.capture?_eq_none here, Waiting.capture?_eq_none text there, refused]

/-- With no call in progress the sink gets a text that it does not refuse. -/
theorem exists_write_of_captures_nil {sink : Sink} {m : Machine ω} {text : String}
    (h : m.captures = []) (taken : sink m.accepted text = none) :
    ∃ m', m.write sink text = .ok m' ∧ m'.captures = [] ∧
      m'.accepted = text :: m.accepted ∧ m.SameButOutput m' := by
  obtain ⟨here, there⟩ := List.append_eq_nil_iff.mp h
  refine ⟨{ m with
      level := m.level.pass text
      outer := Waiting.passAll text m.outer
      accepted := text :: m.accepted }, ?_, ?_, rfl, rfl, ?_, rfl, rfl⟩
  · simp [write, Level.capture?_eq_none here, Waiting.capture?_eq_none text there, taken]
  · simp [captures, here, there]
  · simp

/-- The innermost call in progress takes a text. -/
theorem exists_write_of_captures_cons {m : Machine ω} {texts : List String}
    {rest : List (List String)} (sink : Sink) (text : String) (h : m.captures = texts :: rest) :
    ∃ m', m.write sink text = .ok m' ∧ m'.captures = (text :: texts) :: rest ∧
      m'.accepted = m.accepted ∧ m.SameButOutput m' := by
  cases here : m.level.captures with
  | nil =>
    have there : Waiting.captures m.outer = texts :: rest := by
      simpa [captures, here] using h
    obtain ⟨outer, taken, after, same⟩ := Waiting.exists_capture? text there
    refine ⟨{ m with level := m.level.pass text, outer := outer }, ?_, ?_, rfl, rfl, same, rfl, rfl⟩
    · simp [write, Level.capture?_eq_none here, taken]
    · simp [captures, here, after]
  | cons first more =>
    rw [captures, here, List.cons_append] at h
    obtain ⟨rfl, rfl⟩ := List.cons.inj h
    obtain ⟨l, taken, after, same⟩ := Level.exists_capture? text here
    refine ⟨{ m with level := l }, ?_, ?_, rfl, same, rfl, rfl, rfl⟩
    · simp [write, taken]
    · simp [captures, after]

/-- A text that is written changes nothing but output. -/
theorem sameButOutput_of_write {sink : Sink} {m m' : Machine ω} {text : String}
    (written : m.write sink text = .ok m') : m.SameButOutput m' := by
  cases h : m.captures with
  | nil =>
    cases taken : sink m.accepted text with
    | none =>
      obtain ⟨m₁, eq, -, -, same⟩ := exists_write_of_captures_nil h taken
      cases written.symm.trans eq
      exact same
    | some reason => cases written.symm.trans (write_refused h taken)
  | cons texts rest =>
    obtain ⟨m₁, eq, -, -, same⟩ := exists_write_of_captures_cons sink text h
    cases written.symm.trans eq
    exact same

end Machine
end TemplateEngine
