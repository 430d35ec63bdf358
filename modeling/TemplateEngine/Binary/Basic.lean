import TemplateEngine.Text.Utf8

/-!
# Bytes

The binary form of plain data. Natural numbers are written seven bits at a
time, lowest first, with the high bit set on all bytes but the last; signed
numbers are folded to natural ones first. Texts and lists start with their
length, an optional value with a byte that says whether it is there.

A decoder takes a value off the front of some bytes. A number may have more
bytes than it needs, as long as it fits its width.
-/

namespace TemplateEngine.Binary

abbrev Decoder (α : Type) := StateT (List UInt8) Option α

def encodeNat (n : Nat) : List UInt8 :=
  if n < 128 then [UInt8.ofNat n] else UInt8.ofNat (n % 128 + 128) :: encodeNat (n / 128)

/-- The number of bytes that numbers of a width have at most. -/
def maxBytes (width : Nat) : Nat := (width + 6) / 7

/-- Reads at most `budget` bytes; the last one possible has `lastBits` bits. -/
def decodeDigits (lastBits : Nat) : Nat → Decoder Nat
  | 0 => failure
  | budget + 1 => fun bytes =>
    match bytes with
    | [] => none
    | b :: rest =>
      if b.toNat < 128 then
        if budget = 0 ∧ Nat.pow 2 lastBits ≤ b.toNat then none else some (b.toNat, rest)
      else
        match decodeDigits lastBits budget rest with
        | none => none
        | some (high, rest) => some (b.toNat - 128 + 128 * high, rest)

/-- Reads a number below `2 ^ width`. -/
def decodeNat (width : Nat) : Decoder Nat :=
  decodeDigits (width - 7 * (maxBytes width - 1)) (maxBytes width)

/-- Zero, minus one, one, minus two, … -/
def foldSign (i : Int) : Nat := if 0 ≤ i then 2 * i.toNat else 2 * i.natAbs - 1

def unfoldSign (n : Nat) : Int := if n % 2 = 0 then (n / 2 : Nat) else -((n / 2 + 1 : Nat) : Int)

theorem unfoldSign_foldSign (i : Int) : unfoldSign (foldSign i) = i := by
  unfold unfoldSign foldSign
  split <;> split <;> omega

def encodeInt (i : Int64) : List UInt8 := encodeNat (foldSign i.toInt)

def decodeInt : Decoder Int64 := do return Int64.ofInt (unfoldSign (← decodeNat 64))

/-- A number of bytes, the lowest first. -/
def encodeFixed : Nat → Nat → List UInt8
  | 0, _ => []
  | count + 1, n => UInt8.ofNat (n % 256) :: encodeFixed count (n / 256)

def decodeFixed : Nat → Decoder Nat
  | 0 => pure 0
  | count + 1 => fun bytes =>
    match bytes with
    | [] => none
    | b :: rest =>
      match decodeFixed count rest with
      | none => none
      | some (high, rest) => some (b.toNat + 256 * high, rest)

def encodeBool (b : Bool) : List UInt8 := [if b then 1 else 0]

def decodeBool : Decoder Bool
  | 0 :: rest => some (false, rest)
  | 1 :: rest => some (true, rest)
  | _ => none

def encodeText (s : String) : List UInt8 := encodeNat (Text.utf8 s).length ++ Text.utf8 s

/-- Takes a number of bytes. -/
def take (count : Nat) : Decoder (List UInt8) := fun bytes =>
  if bytes.length < count then none else some (bytes.take count, bytes.drop count)

def decodeText : Decoder String := do
  let length ← decodeNat 64
  let bytes ← take length
  match Text.ofUtf8? bytes with
  | some s => return s
  | none => failure

def encodeOption {α : Type} (encode : α → List UInt8) : Option α → List UInt8
  | none => encodeBool false
  | some a => encodeBool true ++ encode a

def decodeOption {α : Type} (decode : Decoder α) : Decoder (Option α) := do
  if ← decodeBool then return some (← decode) else return none

def encodeList {α : Type} (encode : α → List UInt8) (xs : List α) : List UInt8 :=
  encodeNat xs.length ++ xs.flatMap encode

def decodeMany {α : Type} (decode : Decoder α) : Nat → Decoder (List α)
  | 0 => pure []
  | count + 1 => do
    let first ← decode
    let rest ← decodeMany decode count
    return first :: rest

def decodeList {α : Type} (decode : Decoder α) : Decoder (List α) := do
  let count ← decodeNat 64
  decodeMany decode count

end TemplateEngine.Binary
