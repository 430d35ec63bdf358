import TemplateEngine.Binary.Program
import TemplateEngine.Cache.Freshness
import TemplateEngine.Program.Check

/-!
# Cache entries

An entry is a compiled program under the name of its template, with the token
of its source. In a file it follows a mark and the version of the format. What
is read from a file is used only if it has that version, belongs to the name it
is looked up under and holds a program that passes the check.
-/

namespace TemplateEngine

structure CacheEntry where
  name : String
  freshness : Freshness
  loaded : Loaded

namespace CacheFile

open Binary

/-- What a file holds: an entry whose program has no identity yet. -/
structure Stored where
  name : String
  freshness : Freshness
  program : Program
deriving DecidableEq

def mark : List UInt8 := [0x58, 0x53, 0x4C, 0x43]

def version : Nat := 2

def header : List UInt8 := mark ++ encodeFixed 4 version

def encodeTime (t : Timestamp) : List UInt8 := encodeNat t.seconds.toNat ++ encodeNat t.nanos

/-- Times stay within 63 bits of seconds. -/
def decodeTime : Decoder Timestamp := do
  let seconds ← decodeNat 64
  let nanos ← decodeNat 32
  let t := Timestamp.ofParts seconds nanos
  if t.seconds < Int.pow 2 63 then return t else failure

def encodeFreshness (f : Freshness) : List UInt8 :=
  encodeOption encodeTime f.modified ++ encodeText f.digest ++ encodeOption encodeText f.origin
    ++ encodeText f.build

def decodeFreshness : Decoder Freshness := do
  let modified ← decodeOption decodeTime
  let digest ← decodeText
  let origin ← decodeOption decodeText
  let build ← decodeText
  return ⟨modified, digest, origin, build⟩

def encodeStored (s : Stored) : List UInt8 :=
  encodeText s.name ++ encodeFreshness s.freshness ++ encodeProgram s.program

def decodeStored : Decoder Stored := do
  let name ← decodeText
  let freshness ← decodeFreshness
  let program ← decodeProgram
  return ⟨name, freshness, program⟩

/-- Whether a token has a written form. -/
def isWritable (f : Freshness) : Bool :=
  match f.modified with
  | some t => 0 ≤ t.seconds
  | none => true

/-- The bytes of a file, unless the token has no written form. -/
def encode? (s : Stored) : Option (List UInt8) :=
  if isWritable s.freshness then some (header ++ encodeStored s) else none

/-- What is made of the bytes of a file. -/
inductive Reading where
  | found (stored : Stored)
  /-- Another format or another template. -/
  | foreign
  | undecodable
  | invalid
deriving DecidableEq

def read (name : String) (bytes : List UInt8) : Reading :=
  if !header.isPrefixOf bytes then .foreign
  else
    match decodeStored (bytes.drop header.length) with
    | none => .undecodable
    | some (stored, _) =>
      if stored.name ≠ name then .foreign
      else if stored.program.isValid then .found stored
      else .invalid

end CacheFile
end TemplateEngine
