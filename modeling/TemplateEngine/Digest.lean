/-!
# SHA-256

The digest of a byte string as defined by FIPS 180-4: the message is padded to
blocks of sixteen words, each block is expanded to a schedule of sixty-four
words and mixed into eight words of state.
-/

namespace TemplateEngine.Digest

def roundConstants : List UInt32 := [
    0x428a2f98, 0x71374491, 0xb5c0fbcf, 0xe9b5dba5, 0x3956c25b, 0x59f111f1, 0x923f82a4, 0xab1c5ed5,
    0xd807aa98, 0x12835b01, 0x243185be, 0x550c7dc3, 0x72be5d74, 0x80deb1fe, 0x9bdc06a7, 0xc19bf174,
    0xe49b69c1, 0xefbe4786, 0x0fc19dc6, 0x240ca1cc, 0x2de92c6f, 0x4a7484aa, 0x5cb0a9dc, 0x76f988da,
    0x983e5152, 0xa831c66d, 0xb00327c8, 0xbf597fc7, 0xc6e00bf3, 0xd5a79147, 0x06ca6351, 0x14292967,
    0x27b70a85, 0x2e1b2138, 0x4d2c6dfc, 0x53380d13, 0x650a7354, 0x766a0abb, 0x81c2c92e, 0x92722c85,
    0xa2bfe8a1, 0xa81a664b, 0xc24b8b70, 0xc76c51a3, 0xd192e819, 0xd6990624, 0xf40e3585, 0x106aa070,
    0x19a4c116, 0x1e376c08, 0x2748774c, 0x34b0bcb5, 0x391c0cb3, 0x4ed8aa4a, 0x5b9cca4f, 0x682e6ff3,
    0x748f82ee, 0x78a5636f, 0x84c87814, 0x8cc70208, 0x90befffa, 0xa4506ceb, 0xbef9a3f7, 0xc67178f2]

structure State where
  a : UInt32
  b : UInt32
  c : UInt32
  d : UInt32
  e : UInt32
  f : UInt32
  g : UInt32
  h : UInt32

def initial : State :=
  ⟨0x6a09e667, 0xbb67ae85, 0x3c6ef372, 0xa54ff53a, 0x510e527f, 0x9b05688c, 0x1f83d9ab, 0x5be0cd19⟩

def rotateRight (x n : UInt32) : UInt32 := (x >>> n) ||| (x <<< (32 - n))

def round (s : State) (constant word : UInt32) : State :=
  let s1 := rotateRight s.e 6 ^^^ rotateRight s.e 11 ^^^ rotateRight s.e 25
  let choice := (s.e &&& s.f) ^^^ ((~~~s.e) &&& s.g)
  let t1 := s.h + s1 + choice + constant + word
  let s0 := rotateRight s.a 2 ^^^ rotateRight s.a 13 ^^^ rotateRight s.a 22
  let majority := (s.a &&& s.b) ^^^ (s.a &&& s.c) ^^^ (s.b &&& s.c)
  ⟨t1 + (s0 + majority), s.a, s.b, s.c, s.d + t1, s.e, s.f, s.g⟩

/-- The next word of the schedule, from the sixteen before it, latest first. -/
def nextWord (latest : List UInt32) : UInt32 :=
  let w15 := latest.getD 14 0
  let w2 := latest.getD 1 0
  let s0 := rotateRight w15 7 ^^^ rotateRight w15 18 ^^^ (w15 >>> 3)
  let s1 := rotateRight w2 17 ^^^ rotateRight w2 19 ^^^ (w2 >>> 10)
  latest.getD 15 0 + s0 + latest.getD 6 0 + s1

/-- Extends a schedule, latest word first, by a number of words. -/
def extend : Nat → List UInt32 → List UInt32
  | 0, words => words
  | n + 1, words => extend n (nextWord words :: words)

def addStates (s t : State) : State :=
  ⟨s.a + t.a, s.b + t.b, s.c + t.c, s.d + t.d, s.e + t.e, s.f + t.f, s.g + t.g, s.h + t.h⟩

def mixBlock (s : State) (block : List UInt32) : State :=
  let schedule := (extend 48 block.reverse).reverse
  addStates s ((roundConstants.zip schedule).foldl (fun t (k, w) => round t k w) s)

def bigEndian (width n : Nat) : List UInt8 :=
  (List.range width).reverse.map fun i => UInt8.ofNat (n / Nat.pow 256 i)

/-- A one bit, zeros up to the last eight bytes of a block, and the length in
bits. -/
def pad (message : List UInt8) : List UInt8 :=
  let length := message.length
  message ++ 0x80 :: List.replicate ((119 - length % 64) % 64) 0 ++ bigEndian 8 (8 * length)

def word (bytes : List UInt8) : UInt32 :=
  bytes.foldl (fun acc b => (acc <<< 8) ||| b.toUInt32) 0

/-- Cuts a list into pieces of a size; `fuel` bounds their number. -/
def chunks {α : Type} (size : Nat) : Nat → List α → List (List α)
  | 0, _ => []
  | _, [] => []
  | fuel + 1, xs => xs.take size :: chunks size fuel (xs.drop size)

def State.words (s : State) : List UInt32 := [s.a, s.b, s.c, s.d, s.e, s.f, s.g, s.h]

/-- The digest as thirty-two bytes. -/
def sha256 (message : List UInt8) : List UInt8 :=
  let padded := pad message
  let blocks := chunks 64 (padded.length / 64) padded
  let final := blocks.foldl (fun s block => mixBlock s ((chunks 4 16 block).map word)) initial
  final.words.flatMap fun w => bigEndian 4 w.toNat

def hexByte (b : UInt8) : List Char := [Nat.digitChar (b.toNat / 16), Nat.digitChar (b.toNat % 16)]

/-- Two lowercase hexadecimal digits for each byte. -/
def hex (bytes : List UInt8) : String := String.ofList (bytes.flatMap hexByte)

/-- The digest of the UTF-8 form of a text, in hexadecimal. -/
def ofText (text : String) : String := hex (sha256 text.toUTF8.toList)

end TemplateEngine.Digest
