import Mathlib.Algebra.Group.Int.Defs
import TemplateEngine.Proofs.Binary.Format
import TemplateEngine.Proofs.Binary.Restores
import TemplateEngine.Proofs.Cache.Stored
import TemplateEngine.Proofs.Cache.Shared
import TemplateEngine.Proofs.Program.Checked

/-!
# Cache files there and back

A file that is written for an entry gives that entry back, also with other bytes after
it, but only under the name of the entry, and gives nothing once it has lost any of its
bytes. Whatever the bytes of a file are, it gives an entry only if it has the mark and
the version of the format, and then only one of the name it is looked up under, with a
program that passes the check.
-/

namespace TemplateEngine

/-- The time is one after the epoch that the clock of the system can show. -/
structure Timestamp.Dated (t : Timestamp) : Prop where
  after : 0 ≤ t.seconds
  before : t.seconds < 2 ^ 63
  proper : t.Proper

namespace CacheFile

open Binary

structure FreshnessFits (f : Freshness) : Prop where
  modified : ∀ t ∈ f.modified, t.Dated
  digest : TextFits f.digest
  origin : ∀ path ∈ f.origin, TextFits path
  build : TextFits f.build

/-- Times have a written form, and the numbers and lengths in an entry have the width
that they are written with. -/
structure Stored.Fits (s : Stored) : Prop where
  name : TextFits s.name
  freshness : FreshnessFits s.freshness
  program : ProgramFits s.program

theorem restores_time {t : Timestamp} (dated : t.Dated) : Restores decodeTime (encodeTime t) t := by
  have seconds_fit : t.seconds.toNat < 2 ^ 64 := by
    have := dated.before
    omega
  have nanos_fit : OperandFits t.nanos := Nat.lt_trans dated.proper (by decide)
  have same : Timestamp.ofParts t.seconds.toNat t.nanos = t := by
    rw [Int.toNat_of_nonneg dated.after]
    exact Timestamp.normal_of_proper dated.proper
  refine (restores_nat (by decide) seconds_fit).bind (.of_append_nil ?_)
  refine (restores_operand nanos_fit).bind ?_
  have in_range : t.seconds < Int.pow 2 63 := dated.before
  dsimp only
  rw [same, if_pos in_range]
  exact .pure t

theorem restores_freshness {f : Freshness} (fits : FreshnessFits f) :
    Restores decodeFreshness (encodeFreshness f) f := by
  unfold encodeFreshness
  simp only [List.append_assoc]
  refine (restores_option fun t known => restores_time (fits.modified t known)).bind ?_
  refine (restores_text fits.digest).bind ?_
  refine (restores_option fun path known => restores_text (fits.origin path known)).bind ?_
  exact (restores_text fits.build).map

theorem restores_stored {s : Stored} (fits : s.Fits) :
    Restores decodeStored (encodeStored s) s := by
  unfold encodeStored
  rw [List.append_assoc]
  refine (restores_text fits.name).bind ?_
  exact (restores_freshness fits.freshness).bind (restores_program fits.program).map

def timeDatum (t : Timestamp) : Datum := .record [.natural t.seconds.toNat, .natural t.nanos]

def freshnessDatum (f : Freshness) : Datum := .record [
  .ofOption timeDatum f.modified,
  .text f.digest,
  .ofOption .text f.origin,
  .text f.build]

/-- What a file holds after its header. -/
def Stored.datum (s : Stored) : Datum :=
  .record [.text s.name, freshnessDatum s.freshness, .ofProgram s.program]

theorem written_time (t : Timestamp) : Written (timeDatum t) (encodeTime t) :=
  .record (.cons (written_nat _) (writtenAll_singleton (written_nat _)))

theorem written_freshness (f : Freshness) : Written (freshnessDatum f) (encodeFreshness f) := by
  unfold encodeFreshness
  simp only [List.append_assoc]
  refine .record (.cons (written_option written_time _) (.cons (written_text _) ?_))
  exact .cons (written_option written_text _) (writtenAll_singleton (written_text _))

theorem written_stored (s : Stored) : Written s.datum (encodeStored s) := by
  unfold encodeStored
  rw [List.append_assoc]
  refine .record (.cons (written_text _) ?_)
  exact .cons (written_freshness _) (writtenAll_singleton (written_program _))

variable {s stored : Stored} {name : String} {bytes part : List UInt8}

theorem encode?_eq_some (fits : s.Fits) : encode? s = some (header ++ encodeStored s) := by
  have writable : isWritable s.freshness = true := by
    unfold isWritable
    cases h : s.freshness.modified with
    | none => rfl
    | some t => exact decide_eq_true (fits.freshness.modified t h).after
  rw [encode?, if_pos writable]

theorem read_of_not_header (h : ¬ header <+: bytes) : read name bytes = .foreign := by
  have other : header.isPrefixOf bytes = false := by
    rw [Bool.eq_false_iff, Ne, List.isPrefixOf_iff_prefix]
    exact h
  rw [read, other]
  rfl

theorem read_header (name : String) (rest : List UInt8) :
    read name (header ++ rest) = match decodeStored rest with
      | none => .undecodable
      | some (stored, _) =>
        if stored.name ≠ name then .foreign
        else if stored.program.isValid then .found stored
        else .invalid := by
  have same : header.isPrefixOf (header ++ rest) = true :=
    List.isPrefixOf_iff_prefix.mpr (List.prefix_append header rest)
  rw [read, same, List.drop_left]
  rfl

/-- The file of an entry holds the entry, whatever follows it. -/
theorem read_encoded (fits : s.Fits) (valid : s.program.isValid = true) (trailing : List UInt8) :
    read s.name (header ++ encodeStored s ++ trailing) = .found s := by
  rw [List.append_assoc, read_header, (restores_stored fits).whole]
  dsimp only
  rw [if_neg (fun other => other rfl), if_pos valid]

theorem read_encoded_other (fits : s.Fits) (other : name ≠ s.name) (trailing : List UInt8) :
    read name (header ++ encodeStored s ++ trailing) = .foreign := by
  rw [List.append_assoc, read_header, (restores_stored fits).whole]
  exact if_pos other.symm

/-- A file that was cut off is of another format or cannot be decoded. -/
theorem read_torn (fits : s.Fits) (name : String) (short : part <+: header ++ encodeStored s)
    (cut : part ≠ header ++ encodeStored s) :
    read name part = .foreign ∨ read name part = .undecodable := by
  by_cases marked : header <+: part
  · obtain ⟨rest, rfl⟩ := marked
    refine .inr ?_
    have torn : decodeStored rest = none := by
      refine (restores_stored fits).torn rest ((List.prefix_append_right_inj header).mp short) ?_
      rintro rfl
      exact cut rfl
    rw [read_header, torn]
  · exact .inl (read_of_not_header marked)

theorem header_of_found (found : read name bytes = .found stored) : header <+: bytes := by
  by_cases marked : header <+: bytes
  · exact marked
  · rw [read_of_not_header marked] at found
    cases found

end CacheFile

namespace CacheEntry

/-- What the file of the entry holds. -/
def stored (entry : CacheEntry) : CacheFile.Stored := ⟨entry.name, entry.freshness, entry.loaded.program⟩

/-- The bytes of the file of the entry. -/
def file (entry : CacheEntry) : List UInt8 := CacheFile.header ++ CacheFile.encodeStored entry.stored

end CacheEntry

namespace Cache

variable {entry : CacheEntry} {s s' : Storage} {name dir : String} {bytes : List UInt8}

theorem readFile_eq_none (nothing : ∀ stored, CacheFile.read name bytes ≠ .found stored) :
    (readFile name bytes s).1 = none := by
  unfold readFile
  split
  case h_1 stored found => exact absurd found (nothing stored)
  all_goals rfl

theorem exists_found_of_readFile (h : (readFile name bytes s).1 = some entry) :
    ∃ stored, CacheFile.read name bytes = .found stored ∧ entry.stored = stored := by
  unfold readFile at h
  split at h
  case h_1 stored found =>
    cases h
    exact ⟨stored, found, rfl⟩
  all_goals cases h

/-- A store that succeeds has written the bytes of the entry to its file. -/
theorem fileAt?_storeFile (fits : entry.stored.Fits) (done : storeFile dir entry s = (.ok (), s')) :
    s'.files.fileAt? (s'.files.names (entryPath dir entry.name)) = some entry.file := by
  have encoded : CacheFile.encode? ⟨entry.name, entry.freshness, entry.loaded.program⟩ = some entry.file :=
    CacheFile.encode?_eq_some fits
  unfold storeFile at done
  rw [encoded] at done
  dsimp only at done
  split at done
  · cases done
  · split at done
    · cases done
    case h_2 files written =>
      cases done
      have there := FileSystem.fileAt?_of_write written
      have working := FileSystem.working_write written
      unfold FileSystem.names FileSystem.base at there ⊢
      dsimp only
      rw [working]
      exact there

/-- A time that can be written is not why a store fails. -/
theorem storeFile_writable (fits : entry.stored.Fits) :
    (storeFile dir entry s).1 ≠ .error .unwritableTime := by
  have encoded : CacheFile.encode? ⟨entry.name, entry.freshness, entry.loaded.program⟩ = some entry.file :=
    CacheFile.encode?_eq_some fits
  unfold storeFile
  rw [encoded]
  dsimp only
  split
  · exact nofun
  · split
    · exact nofun
    · exact nofun

/-- Files of entries there and back. The bytes of an entry are the mark, the version and
what the format says of the entry; a store puts these and no others. They give the entry
back under its name, with a new identity and whatever follows them; under other names
they give nothing, and no part of them gives anything under any name. Any bytes at all
give at most an entry of the name that is asked for, with a program that passes the
check, and only after the mark and the version. -/
theorem file_roundTrip :
    (∀ entry : CacheEntry, entry.stored.Fits → entry.loaded.program.isValid = true →
      (∃ body, entry.file = [0x58, 0x53, 0x4C, 0x43] ++ [2, 0, 0, 0] ++ body ∧
        ∀ bytes, Binary.Written entry.stored.datum bytes ↔ bytes = body) ∧
      (∀ dir s, (storeFile dir entry s).1 ≠ .error .unwritableTime ∧
        ∀ s', storeFile dir entry s = (.ok (), s') →
          s'.files.fileAt? (s'.files.names (entryPath dir entry.name)) = some entry.file) ∧
      (∀ trailing s, readFile entry.name (entry.file ++ trailing) s =
        (some ⟨entry.name, entry.freshness, ⟨s.nextId, entry.loaded.program⟩⟩,
          { s with nextId := s.nextId + 1 })) ∧
      (∀ name part s, part <+: entry.file → part ≠ entry.file → (readFile name part s).1 = none) ∧
      ∀ name trailing s, name ≠ entry.name → (readFile name (entry.file ++ trailing) s).1 = none) ∧
    ∀ name bytes s entry, (readFile name bytes s).1 = some entry →
      [0x58, 0x53, 0x4C, 0x43, 2, 0, 0, 0] <+: bytes ∧ entry.name = name ∧
        entry.loaded.program.isValid = true := by
  refine ⟨?_, ?_⟩
  · intro entry fits valid
    refine ⟨⟨CacheFile.encodeStored entry.stored, rfl, ?_⟩, ?_, ?_, ?_, ?_⟩
    · intro bytes
      refine ⟨fun written => written.unique (CacheFile.written_stored entry.stored), ?_⟩
      rintro rfl
      exact CacheFile.written_stored entry.stored
    · exact fun dir s => ⟨storeFile_writable fits, fun s' done => fileAt?_storeFile fits done⟩
    · intro trailing s
      have found := CacheFile.read_encoded fits valid trailing
      unfold readFile
      rw [show CacheFile.read entry.name (entry.file ++ trailing) = _ from found]
      rfl
    · intro name part s short cut
      refine readFile_eq_none ?_
      rcases CacheFile.read_torn fits name short cut with foreign | torn
      · rw [foreign]
        exact nofun
      · rw [torn]
        exact nofun
    · intro name trailing s other
      refine readFile_eq_none ?_
      rw [show CacheFile.read name (entry.file ++ trailing) = _ from
        CacheFile.read_encoded_other fits other trailing]
      exact nofun
  · intro name bytes s entry given
    obtain ⟨stored, found, rfl⟩ := exists_found_of_readFile given
    exact ⟨CacheFile.header_of_found found, CacheFile.name_of_found found,
      Program.isValid_iff.mpr (CacheFile.checked_of_read found)⟩

end Cache

namespace Hello

/-- An entry for a template that is one text. -/
def entry : CacheEntry where
  name := "t.tx"
  freshness := ⟨some ⟨1, 500⟩, "digest", some "templates/t.tx", "Kolon"⟩
  loaded := {
    id := 0
    program := {
      name := "t.tx"
      constants := #[.str "hello"]
      names := #[]
      macros := #[]
      instructions := #[.constLoad 0, .print .raw, .finish] } }

theorem fits_entry : entry.stored.Fits := by
  refine ⟨by decide, ⟨?_, by decide, ?_, by decide⟩, ?_⟩
  · rintro _ ⟨⟩
    exact ⟨by decide, by decide, by simp [Timestamp.Proper]⟩
  · rintro _ ⟨⟩
    decide
  · exact ⟨by decide, by decide, by decide, by decide, by decide, by decide, nofun, by decide,
      by decide⟩

/-- The file of the entry gives the entry back, but not without its last byte. -/
theorem file_roundTrip_entry :
    (Cache.readFile "t.tx" (entry.file ++ [7]) .empty).1 = some entry ∧
      (Cache.readFile "t.tx" entry.file.dropLast .empty).1 = none := by
  obtain ⟨-, -, back, torn, -⟩ := Cache.file_roundTrip.1 entry fits_entry (by decide)
  refine ⟨congrArg Prod.fst (back [7] .empty), torn _ _ _ (List.dropLast_prefix _) ?_⟩
  intro same
  have length := congrArg List.length same
  have marked : 8 ≤ entry.file.length := by
    rw [CacheEntry.file, List.length_append]
    exact Nat.le_add_right 8 _
  rw [List.length_dropLast] at length
  omega

end Hello
end TemplateEngine
