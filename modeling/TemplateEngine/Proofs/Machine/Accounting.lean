import TemplateEngine.Engine
import TemplateEngine.Proofs.Machine.Bounds
import TemplateEngine.Proofs.Machine.Discipline
import TemplateEngine.Proofs.Machine.Ledger
import TemplateEngine.Proofs.Machine.Written
import TemplateEngine.Proofs.Text.Lossy

/-!
# Where the output of a run goes

The count of a run is the number of bytes that the sink has taken, however the run ends.
Between a macro call and its return nothing reaches the sink or is counted at the levels
that were there at the call, and the return pushes all that was printed in between with
no other call in progress, in order, as one text. A sink that refuses texts cuts a run
off and does nothing else, so what it has taken comes first in what a sink without a
limit takes.
-/

namespace TemplateEngine

open Text (utf8 ofUtf8Lossy ofUtf8Lossy_utf8 utf8_join)

variable {ω : Type}

/-- The same run with a sink that takes everything. -/
abbrev Environment.unlimited (env : Environment ω) : Environment ω := { env with sink := .unlimited }

/-- The bytes of some texts, one after the other. -/
abbrev bytesOf (texts : List String) : List UInt8 := texts.flatMap utf8

theorem length_bytesOf (texts : List String) : (bytesOf texts).length = byteCount texts := by
  induction texts with
  | nil => rfl
  | cons text texts ih =>
    rw [bytesOf, List.flatMap_cons, List.length_append, ih]
    simp [byteCount, utf8]

theorem ofUtf8Lossy_bytesOf (texts : List String) :
    ofUtf8Lossy (bytesOf texts) = String.join texts := by
  rw [bytesOf, ← utf8_join, ofUtf8Lossy_utf8]

namespace Machine

variable {env : Environment ω} {fuel n : Nat} {m m' m'' : Machine ω} {o : Outcome ω}

/-- One step enters at most one text. -/
theorem reverse_entered (enters : Prop) [Decidable enters] (text? : Option String) :
    (if enters then text?.toList else []).reverse = if enters then text?.toList else [] := by
  cases text? <;> split <;> rfl

/-- The sink takes what is printed with no call in progress. -/
theorem accepted_run_eq (ended : run env fuel m = some o) :
    o.accepted.reverse = m.accepted.reverse ++ printed env 0 fuel m := by
  induction fuel generalizing m with
  | zero => cases ended
  | succ fuel ih =>
    rw [run] at ended
    split at ended
    case h_1 next first =>
      have taken := (turn_step first).sunk_eq
      rw [captured_accounts] at taken
      rw [ih ended, taken, printed_of_step env 0 fuel first, List.reverse_append, List.append_assoc,
        reverse_entered]
    case h_2 outcome last =>
      obtain rfl := Option.some.inj ended
      rw [accepted_of_step last, printed_of_last env 0 fuel last, List.append_nil]

/-- The bytes that each level has let pass, innermost first. -/
def counts (m : Machine ω) : List Nat := m.accounts.map Account.written

theorem Calling.accounts {k n : Nat} (h : m.Calling k n) : Account.Calling k n m.accounts := by
  cases h with
  | running depth calls =>
    refine ⟨[], m.level.account, _, rfl, by simpa using depth, ?_⟩
    simpa [Level.account, Level.captures] using calls
  | @waiting inner w around outer depth calls =>
    refine ⟨m.level.account :: inner.map fun w => w.level.account, w.level.account,
      around.map fun w => w.level.account, ?_, by simpa using depth, ?_⟩
    · simp [Machine.accounts, outer]
    · simpa [Level.account, Level.captures] using calls

/-- What is printed during a call with no other one inside of it is added to what the call
has captured. -/
theorem Through.inCall {account : Account} {around : List Account} {texts : List String}
    (h : m.Through env (Calling around.length account.captures.length) m')
    (before : Account.InCall texts (account :: around) m.accounts) :
    m'.accepted = m.accepted ∧ ∃ n, m.Reaches env n m' ∧
      Account.InCall ((printed env (Account.captured (account :: around) + 1) n m).reverse ++ texts)
        (account :: around) m'.accounts := by
  induction h generalizing texts with
  | @refl m => exact ⟨rfl, 0, .refl m, by simpa [printed] using before⟩
  | @step m m₁ m' _ first later ih =>
    obtain ⟨same, inside⟩ := (turn_step first).inCall before later.first.accounts
    obtain ⟨kept, n, reaches, after⟩ := ih inside
    refine ⟨kept.trans same, n + 1, .step first reaches, ?_⟩
    rw [captured_accounts] at after
    rw [printed_of_step env _ n first, List.reverse_append, List.append_assoc, reverse_entered]
    exact after

/-- The texts printed from the call at `m` until `m'` with no other call in progress. -/
def textsOfCall (env : Environment ω) (m m' : Machine ω) : List String :=
  printed env (m.captures.length + 1) (m'.steps - m.steps) m

/-- While a call is in progress nothing goes to the sink, and what is printed is captured
above the accounts that the call found. -/
theorem inCall_of_call {count : Nat} {m₁ : Machine ω}
    (call : m.level.fetch = .ok (.macroCall count)) (first : m.step env = .inl m₁)
    (through : m₁.Through env (Calling m.outer.length m.level.calls.length) m') :
    m'.accepted = m.accepted ∧
      Account.InCall (textsOfCall env m m').reverse m.accounts m'.accounts := by
  obtain ⟨_, _, _, _, _, -, -, -, -, -, eq⟩ := step_call call first
  have begins : Account.InCall [] m.accounts m₁.accounts := by
    rw [eq]
    exact .intro [] []
  have during : m₁.Through env (Calling (m.outer.map fun w => w.level.account).length
      m.level.account.captures.length) m' := by
    simpa [Level.account, Level.captures] using through
  obtain ⟨kept, n, reaches, inside⟩ := during.inCall begins
  have steps : m'.steps - m.steps = n + 1 := by
    rw [reaches.steps, steps_of_step first]
    omega
  refine ⟨kept.trans (by rw [eq]), ?_⟩
  have silent : m.level.prints? = none := Level.prints?_eq_none call (by simp)
  rw [List.append_nil] at inside
  rw [textsOfCall, steps, printed_of_step env _ n first, silent, ← captured_accounts]
  simp only [Option.toList_none, ite_self, List.nil_append]
  exact inside

theorem counts_suffix {texts : List String} (inside : Account.InCall texts m.accounts m'.accounts) :
    m.counts <:+ m'.counts := by
  unfold counts
  generalize m.accounts = before at inside
  generalize m'.accounts = after at inside
  cases inside with
  | intro inner extra => exact ⟨inner.map Account.written, by simp⟩

/-- All that a call has printed comes back to the calling level and goes nowhere else. -/
structure CallAccounted (env : Environment ω) (m m' m'' : Machine ω) : Prop where
  pushed : m''.level.stack = .raw (String.join (textsOfCall env m m')) :: m'.level.stack
  lossless : ofUtf8Lossy (bytesOf (textsOfCall env m m')) = String.join (textsOfCall env m m')
  accepted : m''.accepted = m.accepted
  counts : m''.counts = m.counts

theorem ReturnsAt.accounted (h : m.ReturnsAt env m') (back : m'.step env = .inl m'') :
    CallAccounted env m m' m'' := by
  obtain ⟨count, call⟩ := h.call
  obtain ⟨m₁, first, through⟩ := h.body
  obtain ⟨kept, inside⟩ := inCall_of_call call first through
  obtain ⟨c, calls, calling, rfl⟩ := step_return h.leaves back
  obtain ⟨account, around⟩ := Account.InCall.innermost inside (by simpa using h.outer)
    (by simpa [Level.account, Level.captures] using h.calls)
  obtain ⟨counted, captured⟩ := Account.mk.inj account
  simp only [Level.captures, calling, List.map_cons] at captured
  refine ⟨?_, ofUtf8Lossy_bytesOf _, kept, ?_⟩
  · rw [(List.cons.inj captured).1, List.reverse_reverse]
  · have outer := congrArg (List.map Account.written) around
    have level : m'.level.written = m.level.written := counted
    simpa [counts, accounts, Level.account, level] using outer

theorem write_unlimited {sink : Sink} {text : String} (written : m.write sink text = .ok m') :
    m.write .unlimited text = .ok m' := by
  unfold write at written ⊢
  split at written
  case h_1 level here => exact written
  case h_2 =>
    split at written
    case h_1 outer there => exact written
    case h_2 =>
      split at written
      · cases written
      · exact written

theorem perform_unlimited {effect : Effect} (goes : m.perform env effect = .inl m') :
    m.perform env.unlimited effect = .inl m' := by
  cases effect with
  | write text level =>
    rw [perform] at goes ⊢
    split at goes
    case h_1 next written =>
      rw [write_unlimited written]
      exact goes
    case h_2 => cases goes
  | next | enter | finish | fail => exact goes

/-- A step that a sink lets pass is the step with a sink that takes everything. -/
theorem step_unlimited (first : m.step env = .inl m') : m.step env.unlimited = .inl m' := by
  unfold step at first ⊢
  split at first
  case h_1 => cases first
  case h_2 left =>
    have left : exhausted? env.unlimited.options m.steps = none := left
    rw [left]
    dsimp only at first ⊢
    split at first
    case h_1 => cases first
    case h_2 op fetched => exact perform_unlimited first

theorem Reaches.unlimited (h : m.Reaches env n m') : m.Reaches env.unlimited n m' := by
  induction h with
  | refl => exact .refl _
  | step first _ ih => exact .step (step_unlimited first) ih

/-- What a sink has taken when a run ends is what one that takes everything has taken at
some point of its run. -/
theorem exists_reaches_unlimited (ended : run env fuel m = some o) :
    ∃ n m', m.Reaches env.unlimited n m' ∧ m'.accepted = o.accepted := by
  obtain ⟨n, m', -, reaches, last⟩ := run_eq_some_iff.mp ended
  exact ⟨n, m', reaches.unlimited, (accepted_of_step last).symm⟩

/-- What a sink has taken comes first in what one that takes everything takes. -/
theorem bytesOf_prefix {fuel' : Nat} {o' : Outcome ω} (ended : run env fuel m = some o)
    (ended' : run env.unlimited fuel' m = some o') :
    bytesOf o.accepted.reverse <+: utf8 o'.output := by
  obtain ⟨n, m', reaches, accepted⟩ := exists_reaches_unlimited ended
  obtain ⟨rest, output⟩ := reaches.output_run ended'
  rw [output, Text.utf8_append, accepted, utf8_join]
  exact List.prefix_append _ _

theorem utf8_output (o : Outcome ω) : utf8 o.output = bytesOf o.accepted.reverse := utf8_join _

theorem ofUtf8Lossy_output (o : Outcome ω) : ofUtf8Lossy (bytesOf o.accepted.reverse) = o.output :=
  ofUtf8Lossy_bytesOf _

theorem written_eq_length {loaded : Loaded} {vars : Vars} {surroundings : ω}
    (ended : run env fuel (start loaded vars surroundings) = some o) :
    o.level.written = (bytesOf o.accepted.reverse).length := by
  have reversed : (bytesOf o.accepted.reverse).length = (bytesOf o.accepted).length :=
    ((List.reverse_perm o.accepted).flatMap_right utf8).length_eq
  rw [written_of_run ended, reversed, length_bytesOf]

/-- Each return that a run executes ends a call that the run has made. -/
theorem exists_call_of_return {loaded : Loaded} {vars : Vars} {surroundings : ω}
    (reaches : (start loaded vars surroundings).Reaches env n m')
    (leaves : m'.level.fetch = .ok .macroReturn) (back : m'.step env = .inl m'') :
    ∃ k m, (start loaded vars surroundings).Reaches env k m ∧ m.ReturnsAt env m' := by
  obtain ⟨c, calls, calling, -⟩ := step_return leaves back
  obtain ⟨k, m₀, loaded', vars', depth, early, begins, executes, here⟩ := exists_start reaches
  obtain ⟨m, called, returns⟩ := exists_returnsAt begins executes here leaves (by simp [calling])
  obtain ⟨j, later⟩ := called.reaches
  exact ⟨k + j, m, early.trans later, returns⟩

/-- However a run ends, its count is the number of bytes that the sink has taken. Nothing
that is executed between a macro call and its return reaches the sink or is counted at a
level that was there at the call, and the return pushes the texts printed in between with
no other call in progress. Reading the bytes as text replaces none of them, also where an
engine does so. A sink that takes everything would have been given the same bytes first. -/
theorem output_accounted :
    (∀ {ω : Type} (env : Environment ω) (loaded : Loaded) (vars : Vars) (surroundings : ω),
      let first := start loaded vars surroundings
      (∀ fuel o, run env fuel first = some o →
        o.level.written = (bytesOf o.accepted.reverse).length ∧
          o.accepted.reverse = printed env 0 fuel first ∧
          ofUtf8Lossy (bytesOf o.accepted.reverse) = o.output ∧
          utf8 o.output = bytesOf o.accepted.reverse) ∧
      (∀ (m : Machine ω) count m₁ m', m.level.fetch = .ok (.macroCall count) →
        m.step env = .inl m₁ → m₁.Through env (Calling m.outer.length m.level.calls.length) m' →
        m'.accepted = m.accepted ∧ m.counts <:+ m'.counts ∧
          ∀ o, m'.step env = .inr o → o.accepted = m.accepted) ∧
      (∀ n m' m'', first.Reaches env n m' → m'.level.fetch = .ok .macroReturn →
        m'.step env = .inl m'' → ∃ k m, first.Reaches env k m ∧ m.ReturnsAt env m') ∧
      (∀ (m m' m'' : Machine ω), m.ReturnsAt env m' → m'.step env = .inl m'' →
        CallAccounted env m m' m'') ∧
      (∀ fuel o, run env fuel first = some o →
        (∃ n m, first.Reaches env.unlimited n m ∧ m.accepted = o.accepted) ∧
          ∀ more o', run env.unlimited more first = some o' →
            bytesOf o.accepted.reverse <+: utf8 o'.output)) ∧
    ∀ (fuel : Nat) (e : Engine) (vars : Vars) (loaded : Loaded) (s : LoaderState) (r : Rendering),
      e.runLoaded fuel vars (.ok loaded, s) = some r →
        ∃ o, run (e.environment .unlimited) fuel (start loaded vars s) = some o ∧
          r.written = (bytesOf o.accepted.reverse).length ∧
          ofUtf8Lossy (bytesOf o.accepted.reverse) = r.output ∧
          utf8 r.output = bytesOf o.accepted.reverse := by
  refine ⟨?_, ?_⟩
  · intro ω env loaded vars surroundings first
    refine ⟨?_, ?_, ?_, ?_, ?_⟩
    · intro fuel o ended
      exact ⟨written_eq_length ended, accepted_run_eq ended, ofUtf8Lossy_output o, utf8_output o⟩
    · intro m count m₁ m' call calls through
      obtain ⟨kept, inside⟩ := inCall_of_call call calls through
      exact ⟨kept, counts_suffix inside, fun o last => (accepted_of_step last).trans kept⟩
    · exact fun n m' m'' reaches leaves back => exists_call_of_return reaches leaves back
    · exact fun m m' m'' returns back => returns.accounted back
    · exact fun fuel o ended =>
        ⟨exists_reaches_unlimited ended, fun more o' ended' => bytesOf_prefix ended ended'⟩
  · intro fuel e vars loaded s r rendered
    obtain ⟨o, ended, rfl⟩ := Option.map_eq_some_iff.mp rendered
    exact ⟨o, ended, written_eq_length ended, ofUtf8Lossy_output o, utf8_output o⟩

end Machine

namespace Letters

/-- A macro that prints a letter and includes a template, called between two more letters. -/
def page : Loaded where
  id := 0
  program := {
    name := "page"
    constants := #[.str "a", .str "foot", .str "b", .str "c"]
    names := #["row"]
    macros := #[⟨"row", [], 3⟩]
    instructions := #[.makeMacro 0, .storeVar 0, .jump 9, .constLoad 0, .print .raw,
      .constLoad 1, .makeMap 0, .inclusion, .macroReturn, .constLoad 2, .print .raw, .loadVar 0,
      .macroCall 0, .print .html, .constLoad 3, .print .raw, .finish] }

/-- The sink has room for three bytes. -/
def environment : Environment Unit where
  options := {}
  source := some fun _ s => (.ok Table.footProgram, s)
  sink := .limited 3 "full"

def first : Machine Unit := .start page [] ()

/-- The machine after some steps. -/
def after : Nat → Option (Machine Unit)
  | 0 => some first
  | n + 1 => (after n).bind fun m => (m.step environment).getLeft?

theorem reaches_of_after {n : Nat} {m : Machine Unit} (h : after n = some m) :
    first.Reaches environment n m := by
  induction n generalizing m with
  | zero =>
    obtain rfl := Option.some.inj h
    exact .refl _
  | succ n ih =>
    obtain ⟨before, early, next⟩ := Option.bind_eq_some_iff.mp h
    exact (ih early).trans (.single (Sum.getLeft?_eq_some_iff.mp next))

/-- The text on top of the stack. -/
def top? (m : Machine Unit) : Option String :=
  match m.level.stack with
  | .raw text :: _ => some text
  | _ => none

/-- The next instruction is a return. -/
def returns? (m : Machine Unit) : Bool :=
  match m.level.fetch with
  | .ok .macroReturn => true
  | _ => false

theorem output_accounted_page :
    (Machine.run environment 40 first).map (fun o => (o.output, o.level.written, o.error.isSome))
        = some ("ba.", 3, true) ∧
      (∃ o o', Machine.run environment 40 first = some o ∧
        Machine.run environment.unlimited 40 first = some o' ∧ o'.output = "ba.c" ∧
        bytesOf o.accepted.reverse <+: Text.utf8 o'.output) ∧
      ∃ m m' m'', m.ReturnsAt environment m' ∧ m'.step environment = .inl m'' ∧
        String.join (Machine.textsOfCall environment m m') = "a." ∧ m''.accepted = m.accepted := by
  obtain ⟨-, -, returns, pushes, cut⟩ := Machine.output_accounted.1 environment page [] ()
  refine ⟨by decide +kernel, ?_, ?_⟩
  · have limited : ((Machine.run environment 40 first).map Outcome.output).isSome := by
      decide +kernel
    have free : (Machine.run environment.unlimited 40 first).map Outcome.output = some "ba.c" := by
      decide +kernel
    obtain ⟨o, ended⟩ := Option.isSome_iff_exists.mp (by simpa using limited)
    obtain ⟨o', ended', output⟩ := Option.map_eq_some_iff.mp free
    exact ⟨o, o', ended, ended', output, (cut 40 o ended).2 40 o' ended'⟩
  · have at_return : (after 15).map returns? = some true := by
      decide +kernel
    have pushed : (after 16).bind top? = some "a." := by
      decide +kernel
    obtain ⟨m', here, leaves⟩ := Option.map_eq_some_iff.mp at_return
    obtain ⟨m'', there, top⟩ := Option.bind_eq_some_iff.mp pushed
    have leaves : m'.level.fetch = .ok .macroReturn := by
      unfold returns? at leaves
      split at leaves
      · assumption
      · cases leaves
    have back : m'.step environment = .inl m'' := by
      rw [after, here, Option.bind_some] at there
      exact Sum.getLeft?_eq_some_iff.mp there
    obtain ⟨k, m, -, called⟩ := returns 15 m' m'' (reaches_of_after here) leaves back
    have accounted := pushes m m' m'' called back
    rw [top?, accounted.pushed] at top
    exact ⟨m, m', m'', called, back, Option.some.inj top, accounted.accepted⟩

end Letters
end TemplateEngine
