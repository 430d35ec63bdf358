import TemplateEngine.Binary.Program

/-!
# Reading what was written

A decoder reads bytes as a value if it gives that value or nothing, whatever
follows the bytes. It may give nothing, since numbers have a bounded width. What
is written of a value is read as that value, so a file never yields another one
than was put into it.
-/

namespace TemplateEngine.Binary

variable {α β : Type}

/-- The bytes are read as the value, if they are read at all. -/
def Reads (decode : Decoder α) (bytes : List UInt8) (a : α) : Prop :=
  ∀ rest b rest', decode (bytes ++ rest) = some (b, rest') → b = a ∧ rest' = rest

theorem Reads.pure (a : α) : Reads (Pure.pure a) [] a := by
  intro rest b rest' h
  cases h
  exact ⟨rfl, rfl⟩

theorem Reads.failure (bytes : List UInt8) (a : α) : Reads Alternative.failure bytes a := nofun

theorem Reads.bind {decode : Decoder α} {next : α → Decoder β} {bytes later : List UInt8} {a : α}
    {b : β} (first : Reads decode bytes a) (second : Reads (next a) later b) :
    Reads (decode >>= next) (bytes ++ later) b := by
  intro rest c rest' h
  rw [List.append_assoc] at h
  obtain ⟨⟨a', left⟩, known, follows⟩ := Option.bind_eq_some_iff.mp h
  obtain ⟨rfl, rfl⟩ := first _ _ _ known
  exact second _ _ _ follows

theorem Reads.of_append_nil {decode : Decoder α} {bytes : List UInt8} {a : α}
    (h : Reads decode (bytes ++ []) a) : Reads decode bytes a := by
  rwa [List.append_nil] at h

/-- Reading ends with the last part. -/
theorem Reads.map {decode : Decoder α} {bytes : List UInt8} {a : α} {f : α → β}
    (h : Reads decode bytes a) : Reads (decode >>= fun a => Pure.pure (f a)) bytes (f a) :=
  .of_append_nil (h.bind (Reads.pure (f a)))

theorem encodeNat_of_lt {n : Nat} (h : n < 128) : encodeNat n = [UInt8.ofNat n] := by
  rw [encodeNat, if_pos h]

theorem reads_digits (lastBits budget n : Nat) : Reads (decodeDigits lastBits budget) (encodeNat n) n := by
  induction budget generalizing n with
  | zero => exact nofun
  | succ budget ih =>
    intro rest b rest' h
    rw [encodeNat] at h
    split at h
    case isTrue small =>
      have byte : (UInt8.ofNat n).toNat = n := by simp; omega
      simp only [List.cons_append, List.nil_append, decodeDigits, byte, small, if_true] at h
      split at h
      · cases h
      · cases h
        exact ⟨rfl, rfl⟩
    case isFalse big =>
      have byte : (UInt8.ofNat (n % 128 + 128)).toNat = n % 128 + 128 := by simp; omega
      have more : ¬ n % 128 + 128 < 128 := by omega
      simp only [List.cons_append, decodeDigits, byte, more, if_false] at h
      split at h
      · cases h
      case h_2 high left known =>
        cases h
        obtain ⟨rfl, rfl⟩ := ih _ _ _ _ known
        exact ⟨by omega, rfl⟩

theorem reads_nat (width n : Nat) : Reads (decodeNat width) (encodeNat n) n := reads_digits _ _ n

/-- The number of a variant is one byte. -/
theorem reads_tag (width : Nat) {n : Nat} (h : n < 128) :
    Reads (decodeNat width) [UInt8.ofNat n] n :=
  encodeNat_of_lt h ▸ reads_nat width n

theorem reads_int (i : Int64) : Reads decodeInt (encodeInt i) i := by
  have read := (reads_nat 64 (foldSign i.toInt)).map (f := fun n => Int64.ofInt (unfoldSign n))
  rw [unfoldSign_foldSign, Int64.ofInt_toInt] at read
  exact read

theorem reads_fixed (count n : Nat) (h : n < Nat.pow 256 count) :
    Reads (decodeFixed count) (encodeFixed count n) n := by
  induction count generalizing n with
  | zero =>
    obtain rfl : n = 0 := by simpa using h
    exact Reads.pure 0
  | succ count ih =>
    intro rest b rest' read
    have byte : (UInt8.ofNat (n % 256)).toNat = n % 256 := by simp
    simp only [encodeFixed, List.cons_append, decodeFixed] at read
    split at read
    · cases read
    case h_2 high left known =>
      cases read
      have high_bound : n / 256 < Nat.pow 256 count := by
        rw [Nat.div_lt_iff_lt_mul (by decide)]
        exact h
      obtain ⟨rfl, rfl⟩ := ih _ high_bound _ _ _ known
      exact ⟨by rw [byte]; omega, rfl⟩

theorem reads_bool (b : Bool) : Reads decodeBool (encodeBool b) b := by
  intro rest b' rest' h
  cases b <;> cases h <;> exact ⟨rfl, rfl⟩

theorem reads_take (bytes : List UInt8) : Reads (take bytes.length) bytes bytes := by
  intro rest taken rest' h
  simp only [take, List.length_append, Nat.not_lt.mpr (Nat.le_add_right ..), if_false,
    List.take_left, List.drop_left] at h
  cases h
  exact ⟨rfl, rfl⟩

theorem reads_text (s : String) : Reads decodeText (encodeText s) s := by
  refine (reads_nat 64 _).bind (Reads.of_append_nil ?_)
  refine (reads_take _).bind ?_
  rw [Text.ofUtf8?_utf8]
  exact Reads.pure s

/-- An optional value may be read in another form. -/
theorem reads_option {encode : α → List UInt8} {decode : Decoder β} {f : α → β} {a : Option α}
    (h : ∀ x ∈ a, Reads decode (encode x) (f x)) :
    Reads (decodeOption decode) (encodeOption encode a) (a.map f) := by
  cases a with
  | none =>
    intro rest a rest' read
    cases read
    exact ⟨rfl, rfl⟩
  | some x => exact (reads_bool true).bind (h x rfl).map

theorem reads_many {encode : α → List UInt8} {decode : Decoder α} {xs : List α}
    (h : ∀ x ∈ xs, Reads decode (encode x) x) :
    Reads (decodeMany decode xs.length) (xs.flatMap encode) xs := by
  induction xs with
  | nil => exact Reads.pure []
  | cons x rest ih =>
    obtain ⟨first, others⟩ := List.forall_mem_cons.mp h
    exact first.bind (ih others).map

theorem reads_list {encode : α → List UInt8} {decode : Decoder α} {xs : List α}
    (h : ∀ x ∈ xs, Reads decode (encode x) x) : Reads (decodeList decode) (encodeList encode xs) xs :=
  (reads_nat 64 _).bind (reads_many h)

theorem reads_array {encode : α → List UInt8} {decode : Decoder α} {xs : Array α}
    (h : ∀ x, Reads decode (encode x) x) :
    Reads (decodeList decode) (encodeList encode xs.toList) xs.toList :=
  reads_list fun x _ => h x

theorem reads_literal (l : Literal) : Reads decodeLiteral (encodeLiteral l) l := by
  cases l with
  | undef => exact (reads_tag 32 (n := 0) (by decide)).bind (Reads.pure _)
  | bool b => exact (reads_tag 32 (n := 1) (by decide)).bind (reads_bool b).map
  | int i => exact (reads_tag 32 (n := 2) (by decide)).bind (reads_int i).map
  | float x =>
    have bits := (reads_fixed 8 x.bits.toNat x.bits.toNat_lt).map
      (f := fun n => Literal.float ⟨UInt64.ofNat n⟩)
    rw [UInt64.ofNat_toNat] at bits
    exact (reads_tag 32 (n := 3) (by decide)).bind bits
  | str s => exact (reads_tag 32 (n := 4) (by decide)).bind (reads_text s).map

theorem reads_choice [BEq α] [LawfulBEq α] {all : List α} {a : α} (known : a ∈ all) :
    Reads (decodeChoice all) (encodeChoice all a) a := by
  unfold decodeChoice encodeChoice
  rw [← List.append_nil (encodeNat _)]
  refine (reads_nat 32 _).bind ?_
  have bound := List.idxOf_lt_length_of_mem known
  rw [List.getElem?_eq_getElem bound, List.getElem_idxOf]
  exact Reads.pure a

theorem mem_outputModes (mode : OutputMode) : mode ∈ outputModes := by
  cases mode <;> decide

theorem reads_instruction (i : Instruction) : Reads decodeInstruction (encodeInstruction i) i := by
  have tagged {n : Nat} (lt : n < 128) {next : Nat → Decoder Instruction} {bytes : List UInt8}
      (h : Reads (next n) bytes i) : Reads (decodeNat 32 >>= next) (UInt8.ofNat n :: bytes) i :=
    (reads_tag 32 lt).bind h
  cases i with
  | finish => exact tagged (n := 0) (by decide) (Reads.pure _)
  | constLoad i => exact tagged (n := 1) (by decide) (reads_nat 32 i).map
  | pop => exact tagged (n := 2) (by decide) (Reads.pure _)
  | loadVar i => exact tagged (n := 3) (by decide) (reads_nat 32 i).map
  | storeVar i => exact tagged (n := 4) (by decide) (reads_nat 32 i).map
  | fieldName i => exact tagged (n := 5) (by decide) (reads_nat 32 i).map
  | index => exact tagged (n := 6) (by decide) (Reads.pure _)
  | binOp op => exact tagged (n := 7) (by decide) (reads_choice op.mem_all).map
  | not => exact tagged (n := 8) (by decide) (Reads.pure _)
  | neg => exact tagged (n := 9) (by decide) (Reads.pure _)
  | makeList n => exact tagged (n := 10) (by decide) (reads_nat 32 n).map
  | makeMap n => exact tagged (n := 11) (by decide) (reads_nat 32 n).map
  | filter f => exact tagged (n := 12) (by decide) (reads_choice f.mem_all).map
  | jump t => exact tagged (n := 13) (by decide) (reads_nat 32 t).map
  | popJumpIfFalse t => exact tagged (n := 14) (by decide) (reads_nat 32 t).map
  | jumpIfFalseOrPop t => exact tagged (n := 15) (by decide) (reads_nat 32 t).map
  | jumpIfTrueOrPop t => exact tagged (n := 16) (by decide) (reads_nat 32 t).map
  | forStart => exact tagged (n := 17) (by decide) (Reads.pure _)
  | forIter var exit =>
    exact tagged (n := 18) (by decide) ((reads_nat 32 var).bind (reads_nat 32 exit).map)
  | makeMacro i => exact tagged (n := 19) (by decide) (reads_nat 32 i).map
  | macroCall n => exact tagged (n := 20) (by decide) (reads_nat 32 n).map
  | macroReturn => exact tagged (n := 21) (by decide) (Reads.pure _)
  | print mode => exact tagged (n := 22) (by decide) (reads_choice (mem_outputModes mode)).map
  | inclusion => exact tagged (n := 23) (by decide) (Reads.pure _)

theorem reads_macro (m : MacroDef) : Reads decodeMacro (encodeMacro m) m := by
  unfold encodeMacro
  rw [List.append_assoc]
  exact (reads_text m.name).bind
    ((reads_list fun param _ => reads_text param).bind (reads_nat 32 m.entry).map)

theorem reads_program (p : Program) : Reads decodeProgram (encodeProgram p) p := by
  unfold encodeProgram
  simp only [List.append_assoc]
  refine (reads_text p.name).bind ?_
  refine (reads_array reads_literal).bind ?_
  refine (reads_array reads_text).bind ?_
  refine (reads_array reads_macro).bind ?_
  exact (reads_array reads_instruction).map

end TemplateEngine.Binary
