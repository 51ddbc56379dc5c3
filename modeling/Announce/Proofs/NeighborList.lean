import Announce.Proofs.Blocks
import Announce.Proofs.Reading

/-!
# Neighbor lists, written and read

The writer keeps the first occurrences of its texts up to the limit and fails
exactly if more than thirty-one are left.  Wherever its record stands in a
payload, the reader finds it unless another neighbor record comes first, and
gives back the identifiers of the texts that were kept.
-/

namespace Announce.Neighbors

/-! ## The texts that are kept -/

/-- The loop over the texts, started with some of them already seen, keeps the
first occurrences of all others. -/
theorem unseen_eq (seen ids : List String) :
    unseen seen ids = (ids.filter fun id => id ∉ seen).eraseDups := by
  induction ids generalizing seen with
  | nil => rfl
  | cons id ids ih =>
      by_cases known : id ∈ seen
      · simp [unseen, known, ih]
      · have later : (ids.filter fun other => other ∉ id :: seen) =
            (ids.filter fun other => other ∉ seen).filter fun other => !other == id := by
          rw [List.filter_filter]
          apply List.filter_congr
          intro other _
          by_cases same : other = id <;> simp [same]
        rw [unseen, if_neg known, ih, later, List.filter_cons_of_pos (by simpa using known),
          List.eraseDups_cons]

theorem distinct_eq (ids : List String) : distinct ids = ids.eraseDups := by
  rw [distinct, unseen_eq, List.filter_eq_self.mpr (by simp)]

theorem retained_eq (ids : List String) (limit : UInt64) :
    retained ids limit = ids.eraseDups.take limit.toNat := by
  rw [retained, distinct_eq]

/-! ## Writing -/

theorem value_eq (ids : List String) :
    value ids = (ids.map PeerId.ofText).flatMap PeerId.bytes := by
  rw [value, List.flatMap_map]

theorem length_value (ids : List String) : (value ids).length = 8 * ids.length := by
  rw [value_eq, length_flatMap_bytes, List.length_map]

/-- What is reported on the way does not change what is written. -/
theorem value_encode (ids : List String) (limit : UInt64) :
    (encode ids limit).value =
      Record.encode Tag.directNeighbors (value (retained ids limit)) := by
  unfold encode
  dsimp only
  split <;> split <;> rfl

theorem length_value_le_iff (ids : List String) :
    (value ids).length ≤ Record.maxValueSize ↔ ids.length ≤ 31 := by
  rw [length_value, Record.maxValueSize]
  omega

/-- A record is written exactly if at most thirty-one texts are kept, and then it
consists of their identifiers. -/
theorem value_encode_eq_ok_iff {ids : List String} {limit : UInt64} {record : Bytes} :
    (encode ids limit).value = .ok record ↔
      (retained ids limit).length ≤ 31 ∧
        0x04 :: UInt8.ofNat (value (retained ids limit)).length ::
          value (retained ids limit) = record := by
  rw [value_encode, ← length_value_le_iff]
  rcases Nat.lt_or_ge Record.maxValueSize (value (retained ids limit)).length with large | fits
  · simp [Record.encode_of_lt large, Nat.not_le.mpr large]
  · simp [Record.encode_of_le fits, fits, Tag.directNeighbors]

/-- Otherwise the size is reported that the texts that are kept would take. -/
theorem value_encode_eq_error_iff {ids : List String} {limit : UInt64} {oversize : Oversize} :
    (encode ids limit).value = .error oversize ↔
      31 < (retained ids limit).length ∧
        ⟨8 * (retained ids limit).length, 255⟩ = oversize := by
  rw [value_encode, ← Nat.not_le, ← length_value_le_iff]
  rcases Nat.lt_or_ge Record.maxValueSize (value (retained ids limit)).length with large | fits
  · rw [Record.encode_of_lt large, Except.error.injEq, and_iff_right (Nat.not_le.mpr large),
      length_value]
    rfl
  · simp [Record.encode_of_le fits, fits]

/-- The writer succeeds exactly if at most thirty-one texts are left when repeated
ones are dropped and the others are cut to the limit.  It writes the identifier of
each of them, in order; otherwise it names the size that they would take.  What
the texts say matters only for which of them are equal. -/
theorem encode_keeps_first_occurrences (ids : List String) (limit : UInt64) :
    ((∃ record, (encode ids limit).value = .ok record) ↔
      8 * (ids.eraseDups.take limit.toNat).length ≤ 255) ∧
    let kept := ids.eraseDups.take limit.toNat
    (8 * kept.length ≤ 255 ↔ kept.length ≤ 31) ∧
    (kept.length ≤ 31 →
      ∃ length : UInt8, length.toNat = 8 * kept.length ∧
        (encode ids limit).value =
          .ok (0x04 :: length :: kept.flatMap fun id => (PeerId.ofText id).bytes)) ∧
    (31 < kept.length →
      (encode ids limit).value = .error { size := 8 * kept.length, limit := 255 }) := by
  have written : (encode ids limit).value =
      Record.encode Tag.directNeighbors (value (ids.eraseDups.take limit.toNat)) := by
    rw [value_encode, retained_eq]
  have size := length_value (ids.eraseDups.take limit.toNat)
  generalize ids.eraseDups.take limit.toNat = kept at written size ⊢
  refine ⟨⟨?_, ?_⟩, by omega, ?_, ?_⟩
  · rintro ⟨record, encoded⟩
    rw [written] at encoded
    rcases Entry.exists_of_encode encoded with ⟨entry, -, same, -⟩
    rw [← size, ← same]
    exact entry.fits
  · intro fits
    let entry : Entry := ⟨Tag.directNeighbors, value kept, size ▸ fits⟩
    exact ⟨entry.wire, written.trans entry.encode_eq⟩
  · intro few
    have fits : 8 * kept.length ≤ Record.maxValueSize := by
      rw [Record.maxValueSize]
      omega
    let entry : Entry := ⟨Tag.directNeighbors, value kept, size ▸ fits⟩
    exact ⟨_, entry.toNat_length.trans size, written.trans entry.encode_eq⟩
  · intro many
    have large : Record.maxValueSize < (value kept).length := by
      rw [size, Record.maxValueSize]
      omega
    rw [written, Record.encode_of_lt large, size]
    rfl

/-- Thirty-two texts, each given twice, are one too many; cut to thirty-one they
are written. -/
theorem encode_keeps_first_occurrences_thirty_two :
    let ids := (List.range 64).map fun index => toString (index % 32)
    (ids.eraseDups.take 32).length = 32 ∧
    (encode ids 32).value = .error { size := 256, limit := 255 } ∧
    ∃ record, (encode ids 31).value = .ok record := by
  intro ids
  have many : (ids.eraseDups.take 32).length = 32 := by decide +kernel
  have few : (ids.eraseDups.take 31).length = 31 := by decide +kernel
  have failed := (encode_keeps_first_occurrences ids 32).2.2.2
  have succeeded := (encode_keeps_first_occurrences ids 31).1.mpr
  simp only [UInt64.reduceToNat, many] at failed
  simp only [UInt64.reduceToNat, few] at succeeded
  exact ⟨many, failed (by decide), succeeded (by decide)⟩

/-! ## Reading -/

/-- The blocks of a written value are the identifiers that were written. -/
theorem blocks_value (ids : List String) : blocks (value ids) = ids.map PeerId.ofText := by
  rw [value_eq, blocks_flatMap_bytes]

/-- What is reported on the way does not change what is read. -/
theorem value_decode (payload : Bytes) :
    (decode payload).value =
      (findValue payload Tag.directNeighbors).value.map blocks := by
  unfold decode
  rw [Log.Logged.value_bind]
  cases (findValue payload Tag.directNeighbors).value with
  | none => rfl
  | some octets =>
      dsimp only
      split <;> rfl

theorem value_decodeTexts (payload : Bytes) :
    (decodeTexts payload).value = (decode payload).value.map (·.map PeerId.toHex) := rfl

/-- A payload announces the neighbors in the first record of its scan that has the
tag of neighbor lists. -/
theorem decode_eq (payload : Bytes) :
    (decode payload).value =
      ((scan payload).1.find? fun record => record.tag = Tag.directNeighbors).map
        fun record => blocks record.value := by
  rw [value_decode, findValue_eq, Option.map_map]
  rfl

/-- The neighbors of a payload are in the first entry with the tag of neighbor
lists. -/
theorem decode_toBytes (layout : Layout) :
    (decode layout.toBytes).value =
      (layout.entries.find? fun entry => entry.tag = Tag.directNeighbors).map
        fun entry => blocks entry.value := by
  rw [value_decode, findValue_toBytes, Option.map_map]
  rfl

theorem decode_wireAll (entries : List Entry) :
    (decode (wireAll entries)).value =
      (entries.find? fun entry => entry.tag = Tag.directNeighbors).map
        fun entry => blocks entry.value := by
  have laidOut := decode_toBytes ⟨entries, [], .inl rfl⟩
  rw [Layout.toBytes, List.append_nil] at laidOut
  exact laidOut

/-- A neighbor record that stands behind complete records is read as the
identifiers of the texts it was written from, whatever follows it, unless one of
the records before it is a neighbor record.  In that case the payload reads as
those records alone do. -/
theorem decode_around_encoded {before record : Bytes} {ids : List String} {limit : UInt64}
    (clean : (scan before).2.truncated = false)
    (encoded : (encode ids limit).value = .ok record) (after : Bytes) :
    ((∀ other ∈ (scan before).1, other.tag ≠ 0x04) →
      (decodeTexts (before ++ record ++ after)).value =
        some ((ids.eraseDups.take limit.toNat).map fun id => (PeerId.ofText id).toHex)) ∧
    ((∃ other ∈ (scan before).1, other.tag = 0x04) →
      (decode (before ++ record ++ after)).value = (decode before).value) := by
  rcases exists_wireAll_eq clean with ⟨front, rfl, placed⟩
  rcases Layout.exists_toBytes_eq after with ⟨back, rfl⟩
  rw [value_encode, retained_eq] at encoded
  rcases Entry.exists_of_encode encoded with ⟨entry, tag, written, rfl⟩
  have same := find?_placeAll 0 front 0x04
  have whole : wireAll front ++ entry.wire ++ back.toBytes =
      (back.behind (front ++ [entry])).toBytes := by
    simp [Layout.toBytes_behind]
  rw [placed, whole, value_decodeTexts, decode_toBytes, decode_wireAll, Layout.behind]
  constructor
  · intro absent
    have none : front.find? (fun entry => entry.tag = Tag.directNeighbors) = none := by
      rw [List.find?_eq_none.mpr (by simpa using absent)] at same
      exact Option.map_eq_none_iff.mp same.symm
    have found : (front ++ [entry] ++ back.entries).find?
        (fun entry => entry.tag = Tag.directNeighbors) = some entry := by
      simp [List.find?_append, none, tag]
    rw [found, Option.map_some, Option.map_some, written, blocks_value, List.map_map]
    rfl
  · rintro ⟨other, member, tagged⟩
    cases found : front.find? (fun entry => entry.tag = Tag.directNeighbors) with
    | some first => simp [List.find?_append, found]
    | none =>
        change front.find? (fun entry => entry.tag = 0x04) = none at found
        rw [found, Option.map_none, Option.map_eq_none_iff, List.find?_eq_none] at same
        simpa [tagged] using same other member

/-- Behind the record of a nickname the neighbors are found; behind an empty
neighbor record they are not. -/
theorem decode_around_encoded_nickname_and_empty :
    let record : Bytes := [4, 16, 0xAB, 0, 0, 0, 0, 0, 0, 0, 0xAB, 0, 0, 0, 0, 0, 0, 0]
    (encode ["ab", "ab", "AB"] 10).value = .ok record ∧
    scan [1, 1, 0xAA] = ([⟨1, 0, [0xAA]⟩], ⟨3, [], false⟩) ∧
    scan [4, 0] = ([⟨4, 0, []⟩], ⟨2, [], false⟩) ∧
    (decodeTexts ([1, 1, 0xAA] ++ record ++ [4])).value =
      some ["ab00000000000000", "ab00000000000000"] ∧
    (decode ([4, 0] ++ record ++ [4])).value = (decode [4, 0]).value := by
  intro record
  have encoded : (encode ["ab", "ab", "AB"] 10).value = .ok record := rfl
  have nickname : scan [1, 1, 0xAA] = ([⟨1, 0, [0xAA]⟩], ⟨3, [], false⟩) :=
    scan_toBytes ⟨[⟨1, [0xAA], by decide⟩], [], .inl rfl⟩
  have empty : scan [4, 0] = ([⟨4, 0, []⟩], ⟨2, [], false⟩) :=
    scan_toBytes ⟨[⟨4, [], by decide⟩], [], .inl rfl⟩
  refine ⟨encoded, nickname, empty, ?_, ?_⟩
  · exact (decode_around_encoded (by rw [nickname]) encoded [4]).1
      (by rw [nickname]; decide)
  · exact (decode_around_encoded (by rw [empty]) encoded [4]).2
      (by rw [empty]; decide)

end Announce.Neighbors
