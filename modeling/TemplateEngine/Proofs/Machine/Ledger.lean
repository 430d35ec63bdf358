import TemplateEngine.Proofs.Machine.Returns

/-!
# The ledger of a machine

Every level has an account of what it has written: the bytes that it has let pass and
the texts that its macro calls in progress have captured. A step opens or closes an
account, opens or closes a capture in the innermost one, or enters one text, which goes
past the accounts with no capture and into the first capture there is, or past all of
them to the sink. So what is entered while a call is in progress stays above the accounts
that the call found, and the call has captured what was entered with no other call inside
of it.
-/

namespace TemplateEngine

/-- The bytes that a level has let pass and what its calls in progress have captured,
innermost first. -/
structure Account where
  written : Nat
  captures : List (List String)

namespace Account

def pass (a : Account) (text : String) : Account := { a with written := a.written + text.utf8ByteSize }

/-- A text goes past the accounts with no capture and into the first capture there is. -/
inductive Takes (text : String) : List Account → List Account → Prop
  | here {n t ts rest} : Takes text (⟨n, t :: ts⟩ :: rest) (⟨n, (text :: t) :: ts⟩ :: rest)
  | pass {a rest rest'} : a.captures = [] → Takes text rest rest' →
      Takes text (a :: rest) (a.pass text :: rest')

/-- The number of captures in all accounts. -/
def captured (accounts : List Account) : Nat := (accounts.flatMap captures).length

/-- What a step that enters a text or none does to the accounts and to the texts that the
sink has taken. -/
inductive Turn : Option String → List Account → List String → List Account → List String → Prop
  | idle {accounts sunk} : Turn none accounts sunk accounts sunk
  | take {text accounts accounts' sunk} : Takes text accounts accounts' →
      Turn (some text) accounts sunk accounts' sunk
  | sink {text accounts sunk} : (∀ a ∈ accounts, a.captures = []) →
      Turn (some text) accounts sunk (accounts.map (·.pass text)) (text :: sunk)
  | call {n ts rest sunk} : Turn none (⟨n, ts⟩ :: rest) sunk (⟨n, [] :: ts⟩ :: rest) sunk
  | back {n t ts rest sunk} : Turn none (⟨n, t :: ts⟩ :: rest) sunk (⟨n, ts⟩ :: rest) sunk
  | enter {accounts sunk} : Turn none accounts sunk (⟨0, []⟩ :: accounts) sunk
  | leave {a rest sunk} : Turn none (a :: rest) sunk rest sunk

/-- A call made with the first accounts is in progress in the second ones and has captured
some texts, latest first. -/
inductive InCall (texts : List String) : List Account → List Account → Prop
  | intro (inner extra) {n ts outer} :
      InCall texts (⟨n, ts⟩ :: outer) (inner ++ ⟨n, extra ++ texts :: ts⟩ :: outer)

variable {text : String} {text? : Option String} {texts sunk sunk' : List String}
  {base accounts accounts' : List Account}

theorem captured_cons (a : Account) (rest : List Account) :
    captured (a :: rest) = a.captures.length + captured rest := by
  simp [captured]

theorem captured_append (front rest : List Account) :
    captured (front ++ rest) = captured front + captured rest := by
  simp [captured]

theorem captured_eq_zero : captured accounts = 0 ↔ ∀ a ∈ accounts, a.captures = [] := by
  rw [captured, List.length_eq_zero_iff, List.flatMap_eq_nil_iff]

theorem Takes.captured_ne_zero (h : Takes text accounts accounts') : captured accounts ≠ 0 := by
  induction h with
  | here => simp [captured_cons]
  | pass _ _ ih => rw [captured_cons]; omega

/-- The sink takes what is entered with no call in progress. -/
theorem Turn.sunk_eq (h : Turn text? accounts sunk accounts' sunk') :
    sunk' = (if captured accounts = 0 then text?.toList else []) ++ sunk := by
  cases h with
  | take takes => simp [takes.captured_ne_zero]
  | sink free => simp [captured_eq_zero.mpr free]
  | idle | call | back | enter | leave => simp

/-- A text that is entered during a call stays above the accounts that the call found. -/
theorem Takes.inCall {inner : List Account} {extra ts : List (List String)} {n : Nat}
    {outer : List Account}
    (h : Takes text (inner ++ ⟨n, extra ++ texts :: ts⟩ :: outer) accounts') :
    InCall (if captured inner + extra.length = 0 then text :: texts else texts)
      (⟨n, ts⟩ :: outer) accounts' := by
  induction inner generalizing accounts' with
  | nil =>
    cases extra with
    | nil =>
      cases h with
      | here => exact .intro [] []
      | pass none _ => cases none
    | cons t extra =>
      cases h with
      | here => exact .intro [] ((text :: t) :: extra)
      | pass none _ => cases none
  | cons a inner ih =>
    obtain ⟨written, captures⟩ := a
    cases h with
    | @here _ t captures =>
      have some : captured (⟨written, t :: captures⟩ :: inner) + extra.length ≠ 0 := by
        rw [captured_cons, List.length_cons]
        omega
      rw [if_neg some]
      exact .intro (⟨written, (text :: t) :: captures⟩ :: inner) extra
    | @pass _ _ rest none takes =>
      obtain rfl : captures = [] := none
      have same : captured (⟨written, []⟩ :: inner) = captured inner := by
        simp [captured_cons]
      rw [same]
      generalize (if captured inner + extra.length = 0 then text :: texts else texts) = after at ih
      cases ih takes with
      | intro inner' extra' => exact .intro (_ :: inner') extra'

/-- At the end of a call the captures in front of it are closed. -/
theorem InCall.innermost {a b : Account} {around around' : List Account}
    (h : InCall texts (a :: around) (b :: around')) (depth : around'.length = around.length)
    (one : b.captures.length = a.captures.length + 1) :
    b = ⟨a.written, texts :: a.captures⟩ ∧ around' = around := by
  generalize base_eq : a :: around = base at h
  generalize after_eq : b :: around' = after at h
  cases h with
  | intro inner extra =>
    obtain ⟨rfl, rfl⟩ := List.cons.inj base_eq
    have size := congrArg List.length after_eq
    simp only [List.length_cons, List.length_append] at size
    obtain rfl : inner = [] := List.eq_nil_of_length_eq_zero (by omega)
    obtain ⟨rfl, rfl⟩ := List.cons.inj after_eq
    simp only [List.length_append, List.length_cons] at one
    obtain rfl : extra = [] := List.eq_nil_of_length_eq_zero (by omega)
    exact ⟨rfl, rfl⟩

/-- Some account with `k` accounts around it has more than `n` captures. -/
def Calling (k n : Nat) (accounts : List Account) : Prop :=
  ∃ inner a outer, accounts = inner ++ a :: outer ∧ outer.length = k ∧ n < a.captures.length

theorem Calling.of_cons {k n : Nat} {a : Account} {rest : List Account}
    (h : Calling k n (a :: rest)) (depth : rest.length = k) : n < a.captures.length := by
  obtain ⟨inner, b, outer, eq, size, more⟩ := h
  have length := congrArg List.length eq
  simp only [List.length_cons, List.length_append] at length
  obtain rfl : inner = [] := List.eq_nil_of_length_eq_zero (by omega)
  obtain ⟨rfl, -⟩ := List.cons.inj eq
  exact more

theorem Calling.lt_length {k n : Nat} (h : Calling k n accounts) : k < accounts.length := by
  obtain ⟨inner, a, outer, rfl, size, -⟩ := h
  simp only [List.length_append, List.length_cons]
  omega

/-- A call in progress captures what is entered with no other call inside of it, and
nothing goes to the sink. -/
theorem Turn.inCall {n : Nat} {ts : List (List String)} {outer : List Account}
    (h : Turn text? accounts sunk accounts' sunk')
    (before : InCall texts (⟨n, ts⟩ :: outer) accounts)
    (still : Calling outer.length ts.length accounts') :
    sunk' = sunk ∧
      InCall ((if captured accounts = captured (⟨n, ts⟩ :: outer) + 1 then text?.toList else [])
        ++ texts) (⟨n, ts⟩ :: outer) accounts' := by
  cases before with
  | intro inner extra =>
    have only : captured (inner ++ ⟨n, extra ++ texts :: ts⟩ :: outer)
          = captured (⟨n, ts⟩ :: outer) + 1 ↔ captured inner + extra.length = 0 := by
      simp only [captured_append, captured_cons, List.length_append, List.length_cons]
      omega
    generalize eq : inner ++ ⟨n, extra ++ texts :: ts⟩ :: outer = accounts at h only
    cases h with
    | idle =>
      subst eq
      exact ⟨rfl, by simpa using .intro inner extra⟩
    | take takes =>
      subst eq
      refine ⟨rfl, ?_⟩
      have after := takes.inCall
      by_cases innermost : captured inner + extra.length = 0
      · rw [if_pos innermost] at after
        rwa [if_pos (only.mpr innermost)]
      · rw [if_neg innermost] at after
        rwa [if_neg (mt only.mp innermost)]
    | sink free =>
      subst eq
      have none := free ⟨n, extra ++ texts :: ts⟩ (by simp)
      simp at none
    | enter =>
      subst eq
      exact ⟨rfl, by simpa using InCall.intro (⟨0, []⟩ :: inner) extra⟩
    | call =>
      refine ⟨rfl, ?_⟩
      cases inner with
      | nil =>
        obtain ⟨same, rfl⟩ := List.cons.inj eq
        obtain ⟨rfl, rfl⟩ := Account.mk.inj same
        simpa using InCall.intro [] ([] :: extra)
      | cons a inner =>
        obtain ⟨rfl, rfl⟩ := List.cons.inj eq
        simpa using InCall.intro (_ :: inner) extra
    | @back _ t ts' rest =>
      refine ⟨rfl, ?_⟩
      cases inner with
      | nil =>
        obtain ⟨same, rfl⟩ := List.cons.inj eq
        obtain ⟨rfl, captures⟩ := Account.mk.inj same
        cases extra with
        | nil =>
          obtain ⟨-, rfl⟩ := List.cons.inj captures
          exact absurd (still.of_cons rfl) (Nat.lt_irrefl _)
        | cons _ extra =>
          obtain ⟨-, rfl⟩ := List.cons.inj captures
          simpa using InCall.intro [] extra
      | cons a inner =>
        obtain ⟨rfl, rfl⟩ := List.cons.inj eq
        simpa using InCall.intro (_ :: inner) extra
    | leave =>
      refine ⟨rfl, ?_⟩
      cases inner with
      | nil =>
        obtain ⟨-, rfl⟩ := List.cons.inj eq
        exact absurd still.lt_length (Nat.lt_irrefl _)
      | cons a inner =>
        obtain ⟨-, rfl⟩ := List.cons.inj eq
        simpa using InCall.intro inner extra

end Account

namespace Level

def account (l : Level) : Account := ⟨l.written, l.captures⟩

/-- The text that the instruction at hand prints. -/
def prints? (l : Level) : Option String :=
  match l.fetch, l.stack with
  | .ok (.print mode), value :: _ => some (value.output (mode == .html))
  | _, _ => none

variable {options : ExecutionOptions} {l l' : Level} {op : Program.Resolved}

theorem prints?_eq_none (fetched : l.fetch = .ok op) (silent : ∀ mode, op ≠ .print mode) :
    l.prints? = none := by
  unfold prints?
  split
  case h_1 mode _ _ print _ => exact absurd (Except.ok.inj (fetched.symm.trans print)) (silent mode)
  case h_2 => rfl

theorem Does.ne_print (does : l.Does options op (.next l')) (mode : OutputMode) :
    op ≠ .print mode := by
  rintro rfl
  cases does with
  | make _ _ makes => cases makes
  | decided _ which | undecided _ _ which => simp at which

theorem takes_capture? {text : String} (taken : l.capture? text = some l') (rest : List Account) :
    Account.Takes text (l.account :: rest) (l'.account :: rest) := by
  unfold capture? at taken
  split at taken
  · cases taken
  case h_2 c rest calls =>
    cases taken
    simp only [account, captures, calls, List.map_cons]
    exact .here

theorem captures_eq_nil_of_capture? {text : String} (h : l.capture? text = none) :
    l.captures = [] := by
  unfold capture? at h
  split at h
  case h_1 none => simp [captures, none]
  case h_2 => cases h

end Level

namespace Machine

variable {ω : Type} {env : Environment ω} {m m' m'' : Machine ω}

/-- The accounts of all levels, innermost first. -/
def accounts (m : Machine ω) : List Account :=
  m.level.account :: m.outer.map fun w => w.level.account

theorem captured_accounts (m : Machine ω) : Account.captured m.accounts = m.captures.length := by
  simp only [Account.captured, accounts, captures, Waiting.captures, List.flatMap_cons,
    List.flatMap_map, Level.account]

theorem takes_waiting {text : String} {waiting waiting' : List Waiting}
    (taken : Waiting.capture? text waiting = some waiting') :
    Account.Takes text (waiting.map fun w => w.level.account)
      (waiting'.map fun w => w.level.account) := by
  induction waiting generalizing waiting' with
  | nil => cases taken
  | cons w rest ih =>
    rw [Waiting.capture?] at taken
    split at taken
    case h_1 level here =>
      cases taken
      exact Level.takes_capture? here _
    case h_2 free =>
      obtain ⟨others, there, rfl⟩ := Option.map_eq_some_iff.mp taken
      exact .pass (Level.captures_eq_nil_of_capture? free) (ih there)

theorem captures_waiting {text : String} {waiting : List Waiting}
    (h : Waiting.capture? text waiting = none) :
    ∀ a ∈ waiting.map fun w => w.level.account, a.captures = [] := by
  induction waiting with
  | nil => exact nofun
  | cons w rest ih =>
    rw [Waiting.capture?] at h
    split at h
    · cases h
    case h_2 free =>
      rw [List.map_cons]
      exact List.forall_mem_cons.mpr
        ⟨Level.captures_eq_nil_of_capture? free, ih (Option.map_eq_none_iff.mp h)⟩

/-- A text that is written is entered. -/
theorem turn_write {sink : Sink} {text : String} (written : m.write sink text = .ok m') :
    Account.Turn (some text) m.accounts m.accepted m'.accounts m'.accepted := by
  unfold write at written
  split at written
  case h_1 level here =>
    cases written
    exact .take (Level.takes_capture? here _)
  case h_2 free =>
    have none := Level.captures_eq_nil_of_capture? free
    split at written
    case h_1 outer there =>
      cases written
      exact .take (.pass none (takes_waiting there))
    case h_2 passes =>
      split at written
      · cases written
      case h_2 =>
        cases written
        have after : m.accounts.map (·.pass text) = (m.level.pass text).account ::
            (Waiting.passAll text m.outer).map fun w => w.level.account := by
          simp [accounts, Waiting.passAll, Level.account, Account.pass, Level.pass, Level.captures]
        have all : ∀ a ∈ m.accounts, a.captures = [] :=
          List.forall_mem_cons.mpr ⟨none, captures_waiting passes⟩
        have entered : Account.Turn (some text) m.accounts m.accepted _ _ := .sink all
        rw [after] at entered
        exact entered

/-- What a step does to the ledger. -/
theorem turn_step (first : m.step env = .inl m') :
    Account.Turn m.level.prints? m.accounts m.accepted m'.accounts m'.accepted := by
  obtain ⟨op, effect, fetched, does, goes⟩ := exists_of_step first
  cases goes with
  | next level =>
    rw [Level.prints?_eq_none fetched does.ne_print]
    cases does with
    | enterMacro => exact .call
    | leaveMacro calling =>
      simp only [accounts, Level.account, Level.captures, calling, List.map_cons]
      exact .back
    | make | drop | store | jump | pass | skip | decided | undecided | startLoop | round
    | endLoop => exact .idle
  | write written =>
    cases does with
    | @print mode value _ stack =>
      have text : m.level.prints? = some (value.output (mode == .html)) := by
        simp only [Level.prints?, fetched, stack]
      rw [text]
      have entered := turn_write written
      exact entered
  | enter =>
    cases does
    rw [Level.prints?_eq_none fetched (by simp)]
    exact .enter
  | @leave _ w rest outer =>
    cases does
    rw [Level.prints?_eq_none fetched (by simp)]
    have outer : m.outer = w :: rest := outer
    rw [accounts, outer]
    exact .leave

/-- The texts that the next steps print while a number of macro calls is in progress. -/
def printed (env : Environment ω) (calls : Nat) : Nat → Machine ω → List String
  | 0, _ => []
  | n + 1, m =>
    match m.step env with
    | .inl m' => (if m.captures.length = calls then m.level.prints?.toList else [])
        ++ printed env calls n m'
    | .inr _ => []

theorem printed_of_step (env : Environment ω) (calls n : Nat) {m m' : Machine ω}
    (first : m.step env = .inl m') : printed env calls (n + 1) m
      = (if m.captures.length = calls then m.level.prints?.toList else [])
        ++ printed env calls n m' := by
  simp only [printed, first]

theorem printed_of_last (env : Environment ω) (calls n : Nat) {m : Machine ω} {o : Outcome ω}
    (last : m.step env = .inr o) : printed env calls (n + 1) m = [] := by
  simp only [printed, last]

end Machine
end TemplateEngine
