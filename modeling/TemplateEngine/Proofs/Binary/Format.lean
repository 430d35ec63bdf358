import Mathlib.Algebra.Group.Nat.Defs
import TemplateEngine.Binary.Program
import TemplateEngine.Proofs.Binary.Reads

/-!
# The binary format

The format, apart from the functions that write it. A datum is made of numbers, texts,
optional data, sequences, records and variants; `Written` says what bytes stand for it.
Records and the fields of variants have no marks around them, so reading a datum takes
knowing its type.

- A natural number has seven bits in each byte, lowest first, and the high bit set on
  all bytes but the last, which is not zero unless it is the only one.
- An integer is folded to a natural number, so that those near zero are small.
- A float is its eight bytes, lowest first.
- A text and a sequence start with their length.
- A variant is the place of its constructor in the declaration, and its fields.
-/

namespace TemplateEngine.Binary

inductive Datum where
  | natural (n : Nat)
  | integer (i : Int)
  | double (bits : UInt64)
  | flag (b : Bool)
  | text (s : String)
  | absent
  | present (d : Datum)
  | sequence (items : List Datum)
  | record (fields : List Datum)
  | variant (place : Nat) (fields : List Datum)

/-- The shortest bytes of a number, seven bits in each. -/
inductive Varint : Nat → List UInt8 → Prop
  | last {b : UInt8} : b.toNat < 128 → Varint b.toNat [b]
  | more {low high : Nat} {bytes : List UInt8} : low < 128 → 0 < high → Varint high bytes →
      Varint (low + 128 * high) (UInt8.ofNat (low + 128) :: bytes)

/-- Zero, minus one, one, minus two, … -/
def zigzag : Int → Nat
  | .ofNat n => 2 * n
  | .negSucc n => 2 * n + 1

/-- The number that some bytes stand for. -/
def lowestFirst : List UInt8 → Nat
  | [] => 0
  | b :: rest => b.toNat + 256 * lowestFirst rest

mutual

inductive Written : Datum → List UInt8 → Prop
  | natural {n bytes} : Varint n bytes → Written (.natural n) bytes
  | integer {i bytes} : Varint (zigzag i) bytes → Written (.integer i) bytes
  | double {bits bytes} : bytes.length = 8 → lowestFirst bytes = UInt64.toNat bits →
      Written (.double bits) bytes
  | no : Written (.flag false) [0]
  | yes : Written (.flag true) [1]
  | text {s length} : Varint (Text.utf8 s).length length → Written (.text s) (length ++ Text.utf8 s)
  | absent : Written .absent [0]
  | present {d bytes} : Written d bytes → Written (.present d) (1 :: bytes)
  | sequence {items length bytes} : Varint items.length length → WrittenAll items bytes →
      Written (.sequence items) (length ++ bytes)
  | record {fields bytes} : WrittenAll fields bytes → Written (.record fields) bytes
  | variant {place number fields bytes} : Varint place number → WrittenAll fields bytes →
      Written (.variant place fields) (number ++ bytes)

/-- The data stand one after the other. -/
inductive WrittenAll : List Datum → List UInt8 → Prop
  | nil : WrittenAll [] []
  | cons {d rest bytes others} : Written d bytes → WrittenAll rest others →
      WrittenAll (d :: rest) (bytes ++ others)

end

theorem Varint.eq_encodeNat {n : Nat} {bytes : List UInt8} (h : Varint n bytes) :
    bytes = encodeNat n := by
  induction h with
  | last small => rw [encodeNat_of_lt small, UInt8.ofNat_toNat]
  | @more low high bytes small positive _ ih =>
    have big : ¬ low + 128 * high < 128 := by omega
    have rest : (low + 128 * high) / 128 = high := by omega
    rw [encodeNat, if_neg big, Nat.add_mul_mod_self_left, Nat.mod_eq_of_lt small, rest, ih]

theorem Varint.unique {n : Nat} {bytes bytes' : List UInt8} (h : Varint n bytes)
    (h' : Varint n bytes') : bytes = bytes' := h.eq_encodeNat.trans h'.eq_encodeNat.symm

theorem lowestFirst_inj {bytes bytes' : List UInt8} (length : bytes.length = bytes'.length)
    (same : lowestFirst bytes = lowestFirst bytes') : bytes = bytes' := by
  induction bytes generalizing bytes' with
  | nil => exact (List.length_eq_zero_iff.mp length.symm).symm
  | cons b rest ih =>
    cases bytes' with
    | nil => cases length
    | cons b' rest' =>
      have low := b.toNat_lt
      have low' := b'.toNat_lt
      rw [lowestFirst, lowestFirst] at same
      have first : b = b' := UInt8.toNat_inj.mp (by omega)
      rw [first, ih (Nat.succ.inj length) (by omega)]

mutual

/-- A datum is written in one way only. -/
theorem Written.unique : ∀ {d bytes bytes'}, Written d bytes → Written d bytes' → bytes = bytes'
  | _, _, _, .natural h, .natural h' => h.unique h'
  | _, _, _, .integer h, .integer h' => h.unique h'
  | _, _, _, .double length bits, .double length' bits' =>
    lowestFirst_inj (length.trans length'.symm) (bits.trans bits'.symm)
  | _, _, _, .no, .no => rfl
  | _, _, _, .yes, .yes => rfl
  | _, _, _, .text h, .text h' => by rw [h.unique h']
  | _, _, _, .absent, .absent => rfl
  | _, _, _, .present h, .present h' => by rw [h.unique h']
  | _, _, _, .sequence length h, .sequence length' h' => by rw [length.unique length', h.unique h']
  | _, _, _, .record h, .record h' => h.unique h'
  | _, _, _, .variant place h, .variant place' h' => by rw [place.unique place', h.unique h']

theorem WrittenAll.unique : ∀ {fields bytes bytes'}, WrittenAll fields bytes →
    WrittenAll fields bytes' → bytes = bytes'
  | _, _, _, .nil, .nil => rfl
  | _, _, _, .cons h rest, .cons h' rest' => by rw [h.unique h', rest.unique rest']

end

namespace Datum

def ofOption {α : Type} (datum : α → Datum) : Option α → Datum
  | none => absent
  | some a => present (datum a)

def ofList {α : Type} (datum : α → Datum) (xs : List α) : Datum := sequence (xs.map datum)

def ofLiteral (l : Literal) : Datum :=
  variant l.ctorIdx <| match l with
    | .undef => []
    | .bool b => [flag b]
    | .int i => [integer i.toInt]
    | .float x => [double x.bits]
    | .str s => [text s]

def ofInstruction (i : Instruction) : Datum :=
  variant i.ctorIdx <| match i with
    | .finish | .pop | .index | .not | .neg | .forStart | .macroReturn | .inclusion => []
    | .constLoad n | .loadVar n | .storeVar n | .fieldName n | .makeList n | .makeMap n | .jump n
    | .popJumpIfFalse n | .jumpIfFalseOrPop n | .jumpIfTrueOrPop n | .makeMacro n | .macroCall n =>
      [natural n]
    | .forIter var exit => [natural var, natural exit]
    | .binOp op => [variant op.ctorIdx []]
    | .filter f => [variant f.ctorIdx []]
    | .print mode => [variant mode.ctorIdx []]

def ofMacro (m : MacroDef) : Datum := record [text m.name, ofList text m.params, natural m.entry]

def ofProgram (p : Program) : Datum := record [
  text p.name,
  ofList ofLiteral p.constants.toList,
  ofList text p.names.toList,
  ofList ofMacro p.macros.toList,
  ofList ofInstruction p.instructions.toList]

end Datum

theorem varint_encodeNat (n : Nat) : Varint n (encodeNat n) := by
  induction n using encodeNat.induct with
  | case1 n small =>
    rw [encodeNat, if_pos small]
    have byte : (UInt8.ofNat n).toNat = n := by simp; omega
    have last : Varint (UInt8.ofNat n).toNat [UInt8.ofNat n] := .last (by omega)
    rwa [byte] at last
  | case2 n big ih =>
    rw [encodeNat, if_neg big]
    have more := Varint.more (Nat.mod_lt n (by decide)) (by omega : 0 < n / 128) ih
    rwa [Nat.mod_add_div] at more

theorem foldSign_eq_zigzag (i : Int) : foldSign i = zigzag i := by
  cases i with
  | ofNat n => simp [foldSign, zigzag]
  | negSucc n =>
    have negative : ¬ 0 ≤ Int.negSucc n := by omega
    rw [foldSign, if_neg negative, zigzag]
    omega

theorem writtenAll_singleton {d : Datum} {bytes : List UInt8} (h : Written d bytes) :
    WrittenAll [d] bytes := by
  have one := WrittenAll.cons h .nil
  rwa [List.append_nil] at one

/-- The number of a constructor is one byte. -/
theorem Written.tagged {n : Nat} {fields : List Datum} {bytes : List UInt8} (lt : n < 128)
    (h : WrittenAll fields bytes) : Written (.variant n fields) (UInt8.ofNat n :: bytes) := by
  have number := varint_encodeNat n
  rw [encodeNat_of_lt lt] at number
  exact .variant number h

theorem written_nat (n : Nat) : Written (.natural n) (encodeNat n) := .natural (varint_encodeNat n)

theorem written_int (i : Int64) : Written (.integer i.toInt) (encodeInt i) := by
  refine .integer ?_
  rw [← foldSign_eq_zigzag]
  exact varint_encodeNat _

theorem length_encodeFixed (count n : Nat) : (encodeFixed count n).length = count := by
  induction count generalizing n with
  | zero => rfl
  | succ count ih => rw [encodeFixed, List.length_cons, ih]

theorem lowestFirst_encodeFixed {count n : Nat} (fits : n < 256 ^ count) :
    lowestFirst (encodeFixed count n) = n := by
  induction count generalizing n with
  | zero =>
    obtain rfl : n = 0 := by simpa using fits
    rfl
  | succ count ih =>
    have byte : (UInt8.ofNat (n % 256)).toNat = n % 256 := by simp
    have high_fits : n / 256 < 256 ^ count := by
      rw [Nat.div_lt_iff_lt_mul (by decide)]
      exact fits
    rw [encodeFixed, lowestFirst, byte, ih high_fits, Nat.mod_add_div]

theorem written_double (x : UInt64) : Written (.double x) (encodeFixed 8 x.toNat) :=
  .double (length_encodeFixed 8 _) (lowestFirst_encodeFixed x.toNat_lt)

theorem written_bool (b : Bool) : Written (.flag b) (encodeBool b) := by
  cases b with
  | false => exact .no
  | true => exact .yes

theorem written_text (s : String) : Written (.text s) (encodeText s) := .text (varint_encodeNat _)

theorem written_option {α : Type} {datum : α → Datum} {encode : α → List UInt8}
    (h : ∀ a, Written (datum a) (encode a)) (a : Option α) :
    Written (.ofOption datum a) (encodeOption encode a) := by
  cases a with
  | none => exact .absent
  | some a => exact .present (h a)

theorem written_list {α : Type} {datum : α → Datum} {encode : α → List UInt8}
    (h : ∀ a, Written (datum a) (encode a)) (xs : List α) :
    Written (.ofList datum xs) (encodeList encode xs) := by
  have each : WrittenAll (xs.map datum) (xs.flatMap encode) := by
    induction xs with
    | nil => exact .nil
    | cons x rest ih => exact .cons (h x) ih
  refine .sequence ?_ each
  rw [List.length_map]
  exact varint_encodeNat _

/-- A constructor without fields is written as its place in a list of all. -/
theorem written_choice {α : Type} [BEq α] {all : List α} {a : α} {place : Nat}
    (h : all.idxOf a = place) : Written (.variant place []) (encodeChoice all a) := by
  rw [encodeChoice, h, ← List.append_nil (encodeNat place)]
  exact .variant (varint_encodeNat place) .nil

theorem idxOf_binaryOp (op : BinaryOp) : BinaryOp.all.idxOf op = op.ctorIdx := by
  cases op <;> rfl

theorem idxOf_filter (f : Filter) : Filter.all.idxOf f = f.ctorIdx := by
  cases f <;> rfl

theorem idxOf_outputMode (mode : OutputMode) : outputModes.idxOf mode = mode.ctorIdx := by
  cases mode <;> rfl

theorem written_literal (l : Literal) : Written (.ofLiteral l) (encodeLiteral l) := by
  cases l with
  | undef => exact .tagged (n := 0) (by decide) .nil
  | bool b => exact .tagged (n := 1) (by decide) (writtenAll_singleton (written_bool b))
  | int i => exact .tagged (n := 2) (by decide) (writtenAll_singleton (written_int i))
  | float x => exact .tagged (n := 3) (by decide) (writtenAll_singleton (written_double x.bits))
  | str s => exact .tagged (n := 4) (by decide) (writtenAll_singleton (written_text s))

theorem written_instruction (i : Instruction) : Written (.ofInstruction i) (encodeInstruction i) := by
  have number (n : Nat) : WrittenAll [.natural n] (encodeNat n) := writtenAll_singleton (written_nat n)
  cases i with
  | finish => exact .tagged (n := 0) (by decide) .nil
  | constLoad n => exact .tagged (n := 1) (by decide) (number n)
  | pop => exact .tagged (n := 2) (by decide) .nil
  | loadVar n => exact .tagged (n := 3) (by decide) (number n)
  | storeVar n => exact .tagged (n := 4) (by decide) (number n)
  | fieldName n => exact .tagged (n := 5) (by decide) (number n)
  | index => exact .tagged (n := 6) (by decide) .nil
  | binOp op =>
    exact .tagged (n := 7) (by decide) (writtenAll_singleton (written_choice (idxOf_binaryOp op)))
  | not => exact .tagged (n := 8) (by decide) .nil
  | neg => exact .tagged (n := 9) (by decide) .nil
  | makeList n => exact .tagged (n := 10) (by decide) (number n)
  | makeMap n => exact .tagged (n := 11) (by decide) (number n)
  | filter f =>
    exact .tagged (n := 12) (by decide) (writtenAll_singleton (written_choice (idxOf_filter f)))
  | jump t => exact .tagged (n := 13) (by decide) (number t)
  | popJumpIfFalse t => exact .tagged (n := 14) (by decide) (number t)
  | jumpIfFalseOrPop t => exact .tagged (n := 15) (by decide) (number t)
  | jumpIfTrueOrPop t => exact .tagged (n := 16) (by decide) (number t)
  | forStart => exact .tagged (n := 17) (by decide) .nil
  | forIter var exit => exact .tagged (n := 18) (by decide) (.cons (written_nat var) (number exit))
  | makeMacro n => exact .tagged (n := 19) (by decide) (number n)
  | macroCall n => exact .tagged (n := 20) (by decide) (number n)
  | macroReturn => exact .tagged (n := 21) (by decide) .nil
  | print mode =>
    exact .tagged (n := 22) (by decide) (writtenAll_singleton (written_choice (idxOf_outputMode mode)))
  | inclusion => exact .tagged (n := 23) (by decide) .nil

theorem written_macro (m : MacroDef) : Written (.ofMacro m) (encodeMacro m) := by
  unfold encodeMacro
  rw [List.append_assoc]
  refine .record (.cons (written_text m.name) ?_)
  exact .cons (written_list written_text m.params) (writtenAll_singleton (written_nat m.entry))

theorem written_program (p : Program) : Written (.ofProgram p) (encodeProgram p) := by
  unfold encodeProgram
  simp only [List.append_assoc]
  refine .record (.cons (written_text p.name) ?_)
  refine .cons (written_list written_literal _) (.cons (written_list written_text _) ?_)
  exact .cons (written_list written_macro _) (writtenAll_singleton (written_list written_instruction _))

end TemplateEngine.Binary
