import TemplateEngine.Text.Utf8

/-!
# Reading bytes that may not be UTF-8

Where a byte string must become a text whatever it holds, each part of it that is no
UTF-8 is replaced by the character U+FFFD: the longest part that starts a character, or
a single byte. The bytes of a text have no such part, so they give back the text, also
when they were put together from the bytes of several texts.
-/

namespace TemplateEngine.Text

/-- Whether a byte continues a character. -/
def isContinuation (b : UInt8) : Bool := 0x80 ≤ b && b ≤ 0xBF

/-- Whether a character may go on with the second byte after the first one. -/
def startsCharacter (first second : UInt8) : Bool :=
  if 0xC2 ≤ first && first ≤ 0xDF then isContinuation second
  else if first = 0xE0 then 0xA0 ≤ second && second ≤ 0xBF
  else if first = 0xED then 0x80 ≤ second && second ≤ 0x9F
  else if 0xE1 ≤ first && first ≤ 0xEF then isContinuation second
  else if first = 0xF0 then 0x90 ≤ second && second ≤ 0xBF
  else if first = 0xF4 then 0x80 ≤ second && second ≤ 0x8F
  else if 0xF1 ≤ first && first ≤ 0xF3 then isContinuation second
  else false

/-- How many bytes after the first one belong to a character that is broken off. -/
def brokenOff (first : UInt8) : List UInt8 → Nat
  | [] => 0
  | second :: rest =>
    if startsCharacter first second then
      match rest with
      | [] => 1
      | third :: _ => if 0xF0 ≤ first && isContinuation third then 2 else 1
    else 0

/-- The characters of a byte string, and U+FFFD for each part that is none. -/
def lossyChars : List UInt8 → List Char
  | [] => []
  | first :: rest =>
    match ByteArray.utf8DecodeChar? (first :: rest).toByteArray 0 with
    | some c => c :: lossyChars (rest.drop (c.utf8Size - 1))
    | none => Char.ofNat 0xFFFD :: lossyChars (rest.drop (brokenOff first rest))
termination_by bytes => bytes.length
decreasing_by all_goals rw [List.length_drop, List.length_cons]; omega

def ofUtf8Lossy (bytes : List UInt8) : String := String.ofList (lossyChars bytes)

theorem lossyChars_encoded (c : Char) (bytes : List UInt8) :
    lossyChars (String.utf8EncodeChar c ++ bytes) = c :: lossyChars bytes := by
  have decoded :
      ByteArray.utf8DecodeChar? (String.utf8EncodeChar c ++ bytes).toByteArray 0 = some c := by
    rw [List.toByteArray_append]
    exact ByteArray.utf8DecodeChar?_utf8EncodeChar_append
  have size : (String.utf8EncodeChar c).length = c.utf8Size := String.length_utf8EncodeChar c
  cases encoded : String.utf8EncodeChar c with
  | nil =>
    rw [encoded] at size
    exact absurd size.symm (Nat.ne_of_gt c.utf8Size_pos)
  | cons first others =>
    rw [encoded, List.length_cons] at size
    rw [encoded, List.cons_append] at decoded
    rw [List.cons_append, lossyChars, decoded]
    simp only [← size, Nat.add_sub_cancel, List.drop_left]

theorem lossyChars_flatMap (chars : List Char) :
    lossyChars (chars.flatMap String.utf8EncodeChar) = chars := by
  induction chars with
  | nil => simp [lossyChars]
  | cons c chars ih => rw [List.flatMap_cons, lossyChars_encoded, ih]

theorem utf8_eq_flatMap (s : String) : utf8 s = s.toList.flatMap String.utf8EncodeChar := by
  simp [utf8, ← String.utf8Encode_toList, List.utf8Encode]

@[simp] theorem utf8_append (s t : String) : utf8 (s ++ t) = utf8 s ++ utf8 t := by
  simp [utf8]

theorem utf8_join (texts : List String) : utf8 (String.join texts) = texts.flatMap utf8 := by
  induction texts with
  | nil => rfl
  | cons text texts ih => rw [String.join_cons, utf8_append, ih, List.flatMap_cons]

/-- No byte of a text is replaced. -/
theorem ofUtf8Lossy_utf8 (s : String) : ofUtf8Lossy (utf8 s) = s := by
  rw [ofUtf8Lossy, utf8_eq_flatMap, lossyChars_flatMap, String.ofList_toList]

end TemplateEngine.Text
