import Mathlib.Algebra.Group.Nat.Defs
import TemplateEngine.Proofs.Binary.Reads

/-!
# Whole and torn bytes

A decoder restores a value from bytes if it gives the value back whatever follows the
bytes, and nothing if the bytes are cut off anywhere. It never looks past the bytes
that it consumes, and it needs all of them. What is written of a value is restored as
long as its numbers have the width that they are written with.
-/

namespace TemplateEngine.Binary

variable {α β : Type}

/-- The bytes are read as the value, whatever follows them, and no part of them is read
as anything. -/
structure Restores (decode : Decoder α) (bytes : List UInt8) (a : α) : Prop where
  whole : ∀ rest, decode (bytes ++ rest) = some (a, rest)
  torn : ∀ part, part <+: bytes → part ≠ bytes → decode part = none

theorem Restores.pure (a : α) : Restores (Pure.pure a) [] a where
  whole _ := rfl
  torn _ short cut := absurd (List.prefix_nil.mp short) cut

theorem Restores.bind {decode : Decoder α} {next : α → Decoder β} {bytes later : List UInt8} {a : α}
    {b : β} (first : Restores decode bytes a) (second : Restores (next a) later b) :
    Restores (decode >>= next) (bytes ++ later) b := by
  have goes (rest : List UInt8) : (decode >>= next) (bytes ++ rest) = next a rest := by
    change (decode (bytes ++ rest)).bind (fun r => next r.1 r.2) = next a rest
    rw [first.whole]
    rfl
  constructor
  · intro rest
    rw [List.append_assoc, goes]
    exact second.whole rest
  · intro part short cut
    -- The cut is within the first bytes, or behind them.
    rcases List.prefix_or_prefix_of_prefix short (List.prefix_append bytes later) with
      within_first | ⟨rest, rfl⟩
    · by_cases all : part = bytes
      · rw [all, ← List.append_nil bytes, goes]
        refine second.torn [] List.nil_prefix ?_
        rintro rfl
        exact cut (all.trans (List.append_nil bytes).symm)
      · change (decode part).bind (fun r => next r.1 r.2) = none
        rw [first.torn part within_first all]
        rfl
    · rw [goes]
      refine second.torn rest ((List.prefix_append_right_inj bytes).mp short) ?_
      rintro rfl
      exact cut rfl

theorem Restores.of_append_nil {decode : Decoder α} {bytes : List UInt8} {a : α}
    (h : Restores decode (bytes ++ []) a) : Restores decode bytes a := by
  rwa [List.append_nil] at h

/-- Reading ends with the last part. -/
theorem Restores.map {decode : Decoder α} {bytes : List UInt8} {a : α} {f : α → β}
    (h : Restores decode bytes a) :
    Restores (decode >>= fun a => Pure.pure (f a)) bytes (f a) :=
  .of_append_nil (h.bind (.pure (f a)))

/-- A decoder that takes one byte and goes on needs that byte. -/
theorem Restores.cons {decode : Decoder α} {b : UInt8} {bytes : List UInt8} {a : α}
    (empty : decode [] = none) (whole : ∀ rest, decode (b :: (bytes ++ rest)) = some (a, rest))
    (torn : ∀ part, part <+: bytes → part ≠ bytes → decode (b :: part) = none) :
    Restores decode (b :: bytes) a := by
  refine ⟨whole, ?_⟩
  intro part short cut
  cases part with
  | nil => exact empty
  | cons first rest =>
    obtain ⟨rfl, shorter⟩ := List.cons_prefix_cons.mp short
    refine torn rest shorter ?_
    rintro rfl
    exact cut rfl

/-- A number of few bits is one byte. -/
theorem restores_digit {lastBits budget n : Nat} (small : n < 128)
    (fits : budget = 0 → n < 2 ^ lastBits) :
    Restores (decodeDigits lastBits (budget + 1)) (encodeNat n) n := by
  have byte : (UInt8.ofNat n).toNat = n := by simp; omega
  have allowed : ¬ (budget = 0 ∧ Nat.pow 2 lastBits ≤ n) :=
    fun ⟨last, beyond⟩ => Nat.not_lt.mpr beyond (fits last)
  rw [encodeNat_of_lt small]
  refine .cons rfl ?_ ?_
  · intro rest
    simp only [decodeDigits, byte, small, if_true, allowed, if_false]
    rfl
  · intro part short cut
    exact absurd (List.prefix_nil.mp short) cut

theorem restores_digits {lastBits budget n : Nat} (narrow : lastBits ≤ 7)
    (fits : n < 2 ^ (lastBits + 7 * budget)) :
    Restores (decodeDigits lastBits (budget + 1)) (encodeNat n) n := by
  have last_fits : 2 ^ lastBits ≤ 128 := Nat.pow_le_pow_right (n := 2) (by decide) narrow
  induction budget generalizing n with
  | zero => exact restores_digit (Nat.lt_of_lt_of_le fits last_fits) fun _ => fits
  | succ budget ih =>
    by_cases small : n < 128
    · exact restores_digit small nofun
    · have high_fits : n / 128 < 2 ^ (lastBits + 7 * budget) := by
        rw [Nat.div_lt_iff_lt_mul (by decide)]
        rwa [Nat.mul_succ, ← Nat.add_assoc, Nat.pow_add] at fits
      have high := ih high_fits
      have byte : (UInt8.ofNat (n % 128 + 128)).toNat = n % 128 + 128 := by simp; omega
      have more : ¬ n % 128 + 128 < 128 := by omega
      have goes (rest : List UInt8) :
          decodeDigits lastBits (budget + 1 + 1) (UInt8.ofNat (n % 128 + 128) :: rest) =
            (decodeDigits lastBits (budget + 1) rest).map fun found =>
              (n % 128 + 128 * found.1, found.2) := by
        rw [decodeDigits]
        simp only [byte, more, if_false, Nat.add_sub_cancel]
        cases decodeDigits lastBits (budget + 1) rest <;> rfl
      rw [encodeNat, if_neg small]
      refine .cons rfl ?_ ?_
      · intro rest
        rw [goes, high.whole]
        simp only [Option.map_some, Nat.mod_add_div]
      · intro part short cut
        rw [goes, high.torn part short cut, Option.map_none]

theorem restores_nat {width n : Nat} (positive : 0 < width) (fits : n < 2 ^ width) :
    Restores (decodeNat width) (encodeNat n) n := by
  obtain ⟨budget, bytes⟩ : ∃ budget, maxBytes width = budget + 1 :=
    ⟨maxBytes width - 1, by unfold maxBytes; omega⟩
  have total : width - 7 * budget + 7 * budget = width := by
    unfold maxBytes at bytes
    omega
  unfold decodeNat
  rw [bytes, Nat.add_sub_cancel]
  refine restores_digits ?_ ?_
  · unfold maxBytes at bytes
    omega
  · rwa [total]

/-- The number of a variant is one byte. -/
theorem restores_tag {n : Nat} (h : n < 128) : Restores (decodeNat 32) [UInt8.ofNat n] n := by
  rw [← encodeNat_of_lt h]
  exact restores_nat (by decide) (Nat.lt_of_lt_of_le h (by decide))

theorem Restores.tagged {n : Nat} {next : Nat → Decoder α} {bytes : List UInt8} {a : α} (lt : n < 128)
    (h : Restores (next n) bytes a) : Restores (decodeNat 32 >>= next) (UInt8.ofNat n :: bytes) a :=
  (restores_tag lt).bind h

theorem foldSign_lt (i : Int64) : foldSign i.toInt < 2 ^ 64 := by
  have low := i.le_toInt
  have high := i.toInt_lt
  unfold foldSign
  split <;> omega

theorem restores_int (i : Int64) : Restores decodeInt (encodeInt i) i := by
  have read := (restores_nat (by decide) (foldSign_lt i)).map (f := fun n => Int64.ofInt (unfoldSign n))
  rw [unfoldSign_foldSign, Int64.ofInt_toInt] at read
  exact read

theorem restores_fixed {count n : Nat} (fits : n < 256 ^ count) :
    Restores (decodeFixed count) (encodeFixed count n) n := by
  induction count generalizing n with
  | zero =>
    obtain rfl : n = 0 := by simpa using fits
    exact .pure 0
  | succ count ih =>
    have byte : (UInt8.ofNat (n % 256)).toNat = n % 256 := by simp
    have high_fits : n / 256 < 256 ^ count := by
      rw [Nat.div_lt_iff_lt_mul (by decide)]
      exact fits
    have high := ih high_fits
    refine .cons rfl ?_ ?_
    · intro rest
      simp only [decodeFixed, high.whole, byte]
      rw [Nat.mod_add_div]
    · intro part short cut
      simp only [decodeFixed, high.torn part short cut]

theorem restores_bool (b : Bool) : Restores decodeBool (encodeBool b) b := by
  refine .cons rfl ?_ ?_
  · intro rest
    cases b <;> rfl
  · intro part short cut
    exact absurd (List.prefix_nil.mp short) cut

theorem restores_take (bytes : List UInt8) : Restores (take bytes.length) bytes bytes where
  whole rest := by
    have enough : ¬ (bytes ++ rest).length < bytes.length := by
      rw [List.length_append]
      omega
    rw [take, if_neg enough, List.take_left, List.drop_left]
  torn part short cut := by
    have fewer : part.length < bytes.length :=
      Nat.lt_of_le_of_ne short.length_le fun same => cut (short.eq_of_length same)
    rw [take, if_pos fewer]

/-- A length is written with 64 bits. -/
abbrev LengthFits (count : Nat) : Prop := count < 2 ^ 64

theorem restores_text {s : String} (fits : LengthFits (Text.utf8 s).length) :
    Restores decodeText (encodeText s) s := by
  refine (restores_nat (by decide) fits).bind (.of_append_nil ?_)
  refine (restores_take _).bind ?_
  rw [Text.ofUtf8?_utf8]
  exact .pure s

theorem restores_option {encode : α → List UInt8} {decode : Decoder α} {a : Option α}
    (h : ∀ x ∈ a, Restores decode (encode x) x) :
    Restores (decodeOption decode) (encodeOption encode a) a := by
  cases a with
  | none => exact .of_append_nil ((restores_bool false).bind (.pure none))
  | some x => exact (restores_bool true).bind (h x rfl).map

theorem restores_many {encode : α → List UInt8} {decode : Decoder α} {xs : List α}
    (h : ∀ x ∈ xs, Restores decode (encode x) x) :
    Restores (decodeMany decode xs.length) (xs.flatMap encode) xs := by
  induction xs with
  | nil => exact .pure []
  | cons x rest ih =>
    obtain ⟨first, others⟩ := List.forall_mem_cons.mp h
    exact first.bind (ih others).map

theorem restores_list {encode : α → List UInt8} {decode : Decoder α} {xs : List α}
    (fits : LengthFits xs.length) (h : ∀ x ∈ xs, Restores decode (encode x) x) :
    Restores (decodeList decode) (encodeList encode xs) xs :=
  (restores_nat (by decide) fits).bind (restores_many h)

theorem restores_array {encode : α → List UInt8} {decode : Decoder α} {xs : Array α}
    (fits : LengthFits xs.size) (h : ∀ x ∈ xs, Restores decode (encode x) x) :
    Restores (decodeList decode) (encodeList encode xs.toList) xs.toList :=
  restores_list fits fun x known => h x (Array.mem_toList_iff.mp known)

theorem restores_choice [BEq α] [LawfulBEq α] {all : List α} {a : α} (known : a ∈ all)
    (fits : all.length ≤ 2 ^ 32) : Restores (decodeChoice all) (encodeChoice all a) a := by
  have place := List.idxOf_lt_length_of_mem known
  unfold decodeChoice encodeChoice
  refine .of_append_nil ((restores_nat (by decide) (Nat.lt_of_lt_of_le place fits)).bind ?_)
  rw [List.getElem?_eq_getElem place, List.getElem_idxOf]
  exact .pure a

/-- A number that an instruction carries, or an entry, is written with 32 bits. -/
abbrev OperandFits (n : Nat) : Prop := n < 2 ^ 32

abbrev TextFits (s : String) : Prop := LengthFits (Text.utf8 s).length

def LiteralFits : Literal → Prop
  | .str s => TextFits s
  | .undef | .bool _ | .int _ | .float _ => True

instance : DecidablePred LiteralFits
  | .str _ => inferInstanceAs (Decidable (_ < _))
  | .undef | .bool _ | .int _ | .float _ => inferInstanceAs (Decidable True)

/-- The numbers that an instruction carries. -/
def operands : Instruction → List Nat
  | .constLoad n | .loadVar n | .storeVar n | .fieldName n | .makeList n | .makeMap n | .jump n
  | .popJumpIfFalse n | .jumpIfFalseOrPop n | .jumpIfTrueOrPop n | .makeMacro n | .macroCall n => [n]
  | .forIter var exit => [var, exit]
  | .finish | .pop | .index | .binOp _ | .not | .neg | .filter _ | .forStart | .macroReturn
  | .print _ | .inclusion => []

structure MacroFits (m : MacroDef) : Prop where
  name : TextFits m.name
  count : LengthFits m.params.length
  params : ∀ param ∈ m.params, TextFits param
  entry : OperandFits m.entry

/-- The numbers and lengths in a program have the width that they are written with. -/
structure ProgramFits (p : Program) : Prop where
  name : TextFits p.name
  constantCount : LengthFits p.constants.size
  constants : ∀ l ∈ p.constants, LiteralFits l
  nameCount : LengthFits p.names.size
  names : ∀ name ∈ p.names, TextFits name
  macroCount : LengthFits p.macros.size
  macros : ∀ m ∈ p.macros, MacroFits m
  instructionCount : LengthFits p.instructions.size
  instructions : ∀ i ∈ p.instructions, ∀ n ∈ operands i, OperandFits n

theorem restores_operand {n : Nat} (fits : OperandFits n) : Restores (decodeNat 32) (encodeNat n) n :=
  restores_nat (by decide) fits

theorem restores_literal {l : Literal} (fits : LiteralFits l) :
    Restores decodeLiteral (encodeLiteral l) l := by
  cases l with
  | undef => exact .tagged (n := 0) (by decide) (.pure _)
  | bool b => exact .tagged (n := 1) (by decide) (restores_bool b).map
  | int i => exact .tagged (n := 2) (by decide) (restores_int i).map
  | float x =>
    have fixed : Restores (decodeFixed 8) (encodeFixed 8 x.bits.toNat) x.bits.toNat :=
      restores_fixed x.bits.toNat_lt
    have bits := fixed.map (f := fun n => Literal.float ⟨UInt64.ofNat n⟩)
    rw [UInt64.ofNat_toNat] at bits
    exact .tagged (n := 3) (by decide) bits
  | str s => exact .tagged (n := 4) (by decide) (restores_text fits).map

theorem restores_instruction {i : Instruction} (fits : ∀ n ∈ operands i, OperandFits n) :
    Restores decodeInstruction (encodeInstruction i) i := by
  have number {n : Nat} (carried : n ∈ operands i) : Restores (decodeNat 32) (encodeNat n) n :=
    restores_operand (fits n carried)
  cases i with
  | finish => exact .tagged (n := 0) (by decide) (.pure _)
  | constLoad n => exact .tagged (n := 1) (by decide) (number (.head _)).map
  | pop => exact .tagged (n := 2) (by decide) (.pure _)
  | loadVar n => exact .tagged (n := 3) (by decide) (number (.head _)).map
  | storeVar n => exact .tagged (n := 4) (by decide) (number (.head _)).map
  | fieldName n => exact .tagged (n := 5) (by decide) (number (.head _)).map
  | index => exact .tagged (n := 6) (by decide) (.pure _)
  | binOp op => exact .tagged (n := 7) (by decide) (restores_choice op.mem_all (by decide)).map
  | not => exact .tagged (n := 8) (by decide) (.pure _)
  | neg => exact .tagged (n := 9) (by decide) (.pure _)
  | makeList n => exact .tagged (n := 10) (by decide) (number (.head _)).map
  | makeMap n => exact .tagged (n := 11) (by decide) (number (.head _)).map
  | filter f => exact .tagged (n := 12) (by decide) (restores_choice f.mem_all (by decide)).map
  | jump t => exact .tagged (n := 13) (by decide) (number (.head _)).map
  | popJumpIfFalse t => exact .tagged (n := 14) (by decide) (number (.head _)).map
  | jumpIfFalseOrPop t => exact .tagged (n := 15) (by decide) (number (.head _)).map
  | jumpIfTrueOrPop t => exact .tagged (n := 16) (by decide) (number (.head _)).map
  | forStart => exact .tagged (n := 17) (by decide) (.pure _)
  | forIter var exit =>
    exact .tagged (n := 18) (by decide) ((number (.head _)).bind (number (.tail _ (.head _))).map)
  | makeMacro n => exact .tagged (n := 19) (by decide) (number (.head _)).map
  | macroCall n => exact .tagged (n := 20) (by decide) (number (.head _)).map
  | macroReturn => exact .tagged (n := 21) (by decide) (.pure _)
  | print mode => exact .tagged (n := 22) (by decide) (restores_choice (mem_outputModes mode) (by decide)).map
  | inclusion => exact .tagged (n := 23) (by decide) (.pure _)

theorem restores_macro {m : MacroDef} (fits : MacroFits m) :
    Restores decodeMacro (encodeMacro m) m := by
  unfold encodeMacro
  rw [List.append_assoc]
  refine (restores_text fits.name).bind ?_
  refine (restores_list fits.count fun param known => restores_text (fits.params param known)).bind ?_
  exact (restores_operand fits.entry).map

theorem restores_program {p : Program} (fits : ProgramFits p) :
    Restores decodeProgram (encodeProgram p) p := by
  unfold encodeProgram
  simp only [List.append_assoc]
  refine (restores_text fits.name).bind ?_
  refine (restores_array fits.constantCount fun l known => restores_literal (fits.constants l known)).bind ?_
  refine (restores_array fits.nameCount fun name known => restores_text (fits.names name known)).bind ?_
  refine (restores_array fits.macroCount fun m known => restores_macro (fits.macros m known)).bind ?_
  exact (restores_array fits.instructionCount fun i known =>
    restores_instruction (fits.instructions i known)).map

end TemplateEngine.Binary
