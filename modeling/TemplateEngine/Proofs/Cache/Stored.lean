import TemplateEngine.Cache.Entry
import TemplateEngine.Proofs.Binary.Reads

/-!
# Files of cache entries

A file that was written for an entry is read as that entry or not at all, for
whatever name it is looked up. Only a time with a second or more of nanoseconds is
read in its usual form.
-/

namespace TemplateEngine

/-- Less than a second of nanoseconds. -/
def Timestamp.Proper (t : Timestamp) : Prop := t.nanos < 1000000000

/-- The same time with less than a second of nanoseconds. -/
def Timestamp.normal (t : Timestamp) : Timestamp := .ofParts t.seconds t.nanos

theorem Timestamp.normal_of_proper {t : Timestamp} (proper : t.Proper) : t.normal = t := by
  have lt : t.nanos < 1000000000 := proper
  have none : (t.nanos : Int) / 1000000000 = 0 := by omega
  rw [normal, ofParts, none, Int.add_zero, Nat.mod_eq_of_lt lt]

/-- The token as it is read from a file. -/
def Freshness.normal (f : Freshness) : Freshness :=
  { f with modified := f.modified.map Timestamp.normal }

theorem Freshness.normal_of_proper {f : Freshness} (proper : ∀ t ∈ f.modified, t.Proper) :
    f.normal = f := by
  have same : f.modified.map Timestamp.normal = f.modified := by
    cases h : f.modified with
    | none => rfl
    | some t => rw [Option.map_some, Timestamp.normal_of_proper (proper t h)]
  rw [normal, same]

namespace CacheFile

open Binary

theorem reads_time {t : Timestamp} (after : 0 ≤ t.seconds) :
    Reads decodeTime (encodeTime t) t.normal := by
  refine (reads_nat 64 _).bind ?_
  rw [Int.toNat_of_nonneg after]
  have whole : Reads (decodeNat 32 >>= fun nanos =>
      if (Timestamp.ofParts t.seconds nanos).seconds < Int.pow 2 63 then
        pure (Timestamp.ofParts t.seconds nanos)
      else failure) (encodeNat t.nanos ++ []) t.normal := by
    refine (reads_nat 32 _).bind ?_
    split
    · exact Reads.pure t.normal
    · exact Reads.failure [] t.normal
  rwa [List.append_nil] at whole

theorem reads_freshness {f : Freshness} (writable : isWritable f = true) :
    Reads decodeFreshness (encodeFreshness f) f.normal := by
  have time : ∀ t ∈ f.modified, Reads decodeTime (encodeTime t) t.normal := by
    intro t known
    refine reads_time ?_
    have dated : f.modified = some t := known
    simpa [isWritable, dated] using writable
  have origin : Reads (decodeOption decodeText) (encodeOption encodeText f.origin) f.origin := by
    have read := reads_option (f := id) fun origin (_ : origin ∈ f.origin) => reads_text origin
    rwa [Option.map_id, id_eq] at read
  unfold encodeFreshness
  simp only [List.append_assoc]
  refine (reads_option time).bind ?_
  refine (reads_text f.digest).bind ?_
  refine origin.bind ?_
  exact (reads_text f.build).map

theorem reads_stored {s : Stored} (writable : isWritable s.freshness = true) :
    Reads decodeStored (encodeStored s) { s with freshness := s.freshness.normal } := by
  unfold encodeStored
  rw [List.append_assoc]
  refine (reads_text s.name).bind ?_
  exact (reads_freshness writable).bind (reads_program s.program).map

/-- What a file is found to hold is what was written. -/
theorem found_of_encode? {s stored : Stored} {name : String} {bytes : List UInt8}
    (written : encode? s = some bytes) (found : read name bytes = .found stored) :
    stored = { s with freshness := s.freshness.normal } := by
  unfold encode? at written
  split at written
  case isFalse => cases written
  case isTrue writable =>
    cases written
    unfold read at found
    rw [List.drop_left] at found
    split at found
    · cases found
    · split at found
      · cases found
      case h_2 first left known =>
        rw [← List.append_nil (encodeStored s)] at known
        obtain ⟨rfl, -⟩ := reads_stored writable _ _ _ known
        split at found
        · cases found
        · split at found <;> cases found
          rfl

theorem name_of_found {stored : Stored} {name : String} {bytes : List UInt8}
    (found : read name bytes = .found stored) : stored.name = name := by
  unfold read at found
  split at found
  · cases found
  · split at found
    · cases found
    · split at found
      · cases found
      case isFalse same =>
        split at found <;> cases found
        exact Decidable.not_not.mp same

end CacheFile
end TemplateEngine
