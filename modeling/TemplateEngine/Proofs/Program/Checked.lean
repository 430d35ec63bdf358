import TemplateEngine.Cache.Entry
import TemplateEngine.Machine.Level
import TemplateEngine.Proofs.Except

/-!
# Programs that pass the check

A program passes the check iff it ends with `finish`, every instruction has its
operands in the pools, and jumps and macros stay within the instructions. So every
instruction can be fetched, and only the last one has none behind it.
-/

namespace TemplateEngine

namespace Program

/-- The program ends, and whatever its instructions refer to is there. -/
structure Checked (p : Program) : Prop where
  ends : p.instructions.back? = some .finish
  resolves : ∀ i ∈ p.instructions, ∃ op, p.resolve i = .ok op
  targets : ∀ i ∈ p.instructions, ∀ t, i.target? = some t → t < p.instructions.size
  entries : ∀ callee ∈ p.macros, callee.entry < p.instructions.size

variable {p : Program} {i : Instruction} {op : Resolved}

theorem checkPlace_eq_ok {position index size : Nat} {what : String} :
    checkPlace position index size what = .ok () ↔ index < size := by
  unfold checkPlace
  split <;> simp_all

theorem constant_eq_ok_iff {n : Nat} : (∃ literal, p.constant n = .ok literal) ↔ n < p.constants.size := by
  unfold constant
  by_cases h : n < p.constants.size <;> simp [h]

theorem nameAt_eq_ok_iff {n : Nat} : (∃ name, p.nameAt n = .ok name) ↔ n < p.names.size := by
  unfold nameAt
  by_cases h : n < p.names.size <;> simp [h]

theorem macroAt_eq_ok_iff {n : Nat} : (∃ callee, p.macroAt n = .ok callee) ↔ n < p.macros.size := by
  unfold macroAt
  by_cases h : n < p.macros.size <;> simp [h]

theorem of_macroAt {n : Nat} {callee : Nat × MacroDef} (h : p.macroAt n = .ok callee) :
    callee.1 = n ∧ callee.2 ∈ p.macros := by
  unfold macroAt at h
  split at h
  case h_1 found =>
    cases h
    exact ⟨rfl, Array.mem_of_getElem? found⟩
  case h_2 => cases h

/-- An instruction has its operands iff its places are in the pools. -/
theorem checkOperand_eq_ok {position : Nat} :
    p.checkOperand position i = .ok () ↔ ∃ op, p.resolve i = .ok op := by
  cases i with
  | constLoad n =>
    simp only [checkOperand, checkPlace_eq_ok, ← constant_eq_ok_iff, resolve, map_eq_ok]
    exact ⟨fun ⟨a, h⟩ => ⟨_, a, h, rfl⟩, fun ⟨_, a, h, _⟩ => ⟨a, h⟩⟩
  | loadVar n | storeVar n | fieldName n | forIter n exit =>
    simp only [checkOperand, checkPlace_eq_ok, ← nameAt_eq_ok_iff, resolve, map_eq_ok]
    exact ⟨fun ⟨a, h⟩ => ⟨_, a, h, rfl⟩, fun ⟨_, a, h, _⟩ => ⟨a, h⟩⟩
  | makeMacro n =>
    simp only [checkOperand, checkPlace_eq_ok, ← macroAt_eq_ok_iff, resolve, map_eq_ok]
    exact ⟨fun ⟨a, h⟩ => ⟨_, a, h, rfl⟩, fun ⟨_, a, h, _⟩ => ⟨a, h⟩⟩
  | _ => simp [checkOperand, resolve]

theorem checkTarget_eq_ok {position : Nat} :
    p.checkTarget position i = .ok () ↔ ∀ t, i.target? = some t → t < p.instructions.size := by
  unfold checkTarget
  cases i.target? with
  | none => simp
  | some t => simp [checkPlace_eq_ok]

theorem checkInstructions_eq_ok {position : Nat} {instructions : List Instruction} :
    p.checkInstructions position instructions = .ok () ↔
      ∀ i ∈ instructions, (∃ op, p.resolve i = .ok op) ∧
        ∀ t, i.target? = some t → t < p.instructions.size := by
  induction instructions generalizing position with
  | nil => simp [checkInstructions]
  | cons i rest ih =>
    simp only [checkInstructions, check_bind_eq_ok, checkOperand_eq_ok, checkTarget_eq_ok, ih,
      List.forall_mem_cons, and_assoc]

theorem checkMacros_eq_ok {callees : List MacroDef} :
    p.checkMacros callees = .ok () ↔ ∀ callee ∈ callees, callee.entry < p.instructions.size := by
  induction callees with
  | nil => simp [checkMacros]
  | cons callee rest ih =>
    rw [checkMacros, List.forall_mem_cons]
    by_cases h : callee.entry < p.instructions.size <;> simp [h, ih]

theorem check_eq_ok_iff : p.check = .ok () ↔ p.Checked := by
  unfold check
  by_cases ends : p.instructions.back? = some .finish
  · simp only [ends, if_true, check_bind_eq_ok, checkInstructions_eq_ok, checkMacros_eq_ok,
      Array.mem_toList_iff]
    constructor
    · rintro ⟨all, entries⟩
      exact ⟨ends, fun i h => (all i h).1, fun i h => (all i h).2, entries⟩
    · intro h
      exact ⟨fun i known => ⟨h.resolves i known, h.targets i known⟩, h.entries⟩
  · simp only [ends, if_false]
    exact ⟨nofun, fun h => absurd h.ends ends⟩

theorem isValid_iff : p.isValid = true ↔ p.Checked := by
  rw [← check_eq_ok_iff, isValid]
  cases p.check <;> simp [Except.isOk, Except.toBool]

/-- What an instruction and the operation that it stands for have in common. -/
structure StandsFor (p : Program) (i : Instruction) (op : Resolved) : Prop where
  target : op.target? = i.target?
  finish : op = .finish ↔ i = .finish
  callee : ∀ callee, op = .makeMacro callee → p.macroAt callee.1 = .ok callee

theorem standsFor_of_resolve (h : p.resolve i = .ok op) : p.StandsFor i op := by
  cases i with
  | makeMacro n =>
    obtain ⟨callee, found, rfl⟩ := map_eq_ok.mp h
    refine ⟨rfl, by simp, ?_⟩
    rintro _ ⟨⟩
    rw [(of_macroAt found).1]
    exact found
  | constLoad n | loadVar n | storeVar n | fieldName n | forIter n exit =>
    obtain ⟨operand, -, rfl⟩ := map_eq_ok.mp h
    exact ⟨rfl, by simp, nofun⟩
  | _ =>
    cases h
    exact ⟨rfl, by simp, nofun⟩

namespace Checked

theorem size_pos (h : p.Checked) : 0 < p.instructions.size := by
  have ends := h.ends
  rw [Array.back?_eq_getElem?] at ends
  have := (Array.getElem?_eq_some_iff.mp ends).1
  omega

/-- Behind every instruction but the last one, which ends the program, is another. -/
theorem succ_lt (h : p.Checked) {ip : Nat} (at_ip : p.instructions[ip]? = some i)
    (goes : i ≠ .finish) : ip + 1 < p.instructions.size := by
  have lt := (Array.getElem?_eq_some_iff.mp at_ip).1
  have ends := h.ends
  rw [Array.back?_eq_getElem?] at ends
  by_cases last : p.instructions.size - 1 = ip
  · rw [last, at_ip] at ends
    exact absurd (Option.some.inj ends) goes
  · omega

end Checked
end Program

theorem Level.fetch_eq_ok {l : Level} {op : Program.Resolved} : l.fetch = .ok op ↔
    ∃ i, l.loaded.program.instructions[l.ip]? = some i ∧ l.loaded.program.resolve i = .ok op := by
  unfold fetch
  cases l.loaded.program.instructions[l.ip]? with
  | none => simp
  | some i => cases h : l.loaded.program.resolve i <;> simp [h]

/-- A macro that an instruction makes is one of the program. -/
theorem Level.macroAt_of_fetch {l : Level} {callee : Nat × MacroDef}
    (h : l.fetch = .ok (.makeMacro callee)) : l.loaded.program.macroAt callee.1 = .ok callee := by
  obtain ⟨i, -, resolved⟩ := fetch_eq_ok.mp h
  exact (Program.standsFor_of_resolve resolved).callee callee rfl

/-- Within a program that passes the check every instruction can be fetched. -/
theorem Level.exists_fetch {l : Level} (h : l.loaded.program.Checked)
    (within_program : l.ip < l.loaded.program.instructions.size) : ∃ op, l.fetch = .ok op := by
  have at_ip := Array.getElem?_eq_getElem within_program
  obtain ⟨op, resolved⟩ := h.resolves _ (Array.getElem_mem within_program)
  exact ⟨op, fetch_eq_ok.mpr ⟨_, at_ip, resolved⟩⟩

/-- A program that is read from a file passes the check. -/
theorem CacheFile.checked_of_read {name : String} {bytes : List UInt8} {stored : CacheFile.Stored}
    (h : CacheFile.read name bytes = .found stored) : stored.program.Checked := by
  unfold CacheFile.read at h
  split at h
  · cases h
  · split at h
    · cases h
    · split at h
      · cases h
      · split at h
        case isTrue valid =>
          cases h
          exact Program.isValid_iff.mp valid
        case isFalse => cases h

end TemplateEngine
