import Announce.Command.Run
import Announce.Proofs.Digits
import Announce.Proofs.NeighborList

/-!
# Listings and neighbor lists

A listing reads all records of a payload and shows their values as digits.  The
reader of neighbor lists stops at the first record with its tag and cuts the
value into identifiers.  Both see the same payload: what the reader finds can be
cut out of the listing.
-/

namespace Announce

/-- The value of a field of a JSON map. -/
def Json.field? (name : String) : Json → Option Json
  | .map fields => fields.lookup name
  | _ => none

theorem listing_inspectReport (payload : Bytes) :
    (inspectReport payload).value.listing = (Listing.ofPayload payload).value := by
  unfold inspectReport
  simp only [Log.Logged.value_bind]
  split <;> rfl

theorem value_inspectReport (payload : Bytes) :
    (inspectReport payload).value = ⟨(Listing.ofPayload payload).value⟩ :=
  congrArg InspectReport.mk (listing_inspectReport payload)

theorem value_ofPayload (payload : Bytes) :
    (Listing.ofPayload payload).value =
      ⟨payload.length, (scan payload).1, (scan payload).2.position,
        (scan payload).2.truncated⟩ := rfl

namespace Listing

theorem truncatedAt_eq_none_iff (listing : Listing) :
    listing.truncatedAt = none ↔ listing.truncated = false := by
  unfold truncatedAt
  cases listing.truncated <;> simp

theorem truncatedAt_of_truncated {listing : Listing} (truncated : listing.truncated = true) :
    listing.truncatedAt = some listing.stop :=
  if_pos truncated

end Listing

theorem neighbors_decodeReport (payload : Bytes) :
    (decodeReport payload).value.neighbors = (Neighbors.decode payload).value := by
  unfold decodeReport
  simp only [Log.Logged.value_bind]
  split <;> rfl

theorem value_decodeReport (payload : Bytes) :
    (decodeReport payload).value = ⟨(Neighbors.decode payload).value⟩ :=
  congrArg DecodeReport.mk (neighbors_decodeReport payload)

theorem value_recordJson (record : Record) :
    (InspectReport.recordJson record).field? "value" =
      some (.string (Hex.encode record.value)) := rfl

theorem length_recordJson (record : Record) :
    (InspectReport.recordJson record).field? "length" = some (.nat record.value.length) := rfl

namespace Neighbors

/-- What is looked up under a tag is the value of the first listed record with it.
No neighbor list is found exactly if no record with its tag is listed.  Otherwise
the neighbors are the blocks of sixteen digits that the listing shows for the
first of these records, and there are as many as its length has eights. -/
theorem decode_agrees_with_listing (payload : Bytes) :
    let records := (inspectReport payload).value.listing.records
    (∀ tag : UInt8, (findValue payload tag).value =
      (records.find? fun record => record.tag = tag).map Record.value) ∧
    ((decode payload).value = none ↔ ∀ record ∈ records, record.tag ≠ 0x04) ∧
    ∀ first, records.find? (fun record => record.tag = 0x04) = some first →
      ∃ digits length,
        (InspectReport.recordJson first).field? "value" = some (.string digits) ∧
        (InspectReport.recordJson first).field? "length" = some (.nat length) ∧
        (decodeTexts payload).value =
          some ((fullBlocks 16 digits.toList).map String.ofList) ∧
        (decodeReport payload).value.count = length / 8 ∧
        ((decodeTexts payload).value = some [] ↔ length < 8) := by
  have listed : (inspectReport payload).value.listing.records = (scan payload).1 := by
    rw [listing_inspectReport, value_ofPayload]
  rw [listed]
  refine ⟨findValue_eq payload, ?_, ?_⟩
  · rw [decode_eq, Option.map_eq_none_iff, List.find?_eq_none]
    simp only [decide_eq_true_eq]
    rfl
  · intro first found
    have decoded : (decode payload).value = some (blocks first.value) := by
      rw [decode_eq]
      exact congrArg _ found
    have count : (decodeReport payload).value.count = first.value.length / 8 := by
      rw [DecodeReport.count, neighbors_decodeReport, decoded, Option.getD_some, length_blocks]
    refine ⟨_, _, value_recordJson first, length_recordJson first, ?_, count, ?_⟩
    · rw [value_decodeTexts, decoded, Option.map_some, toHex_blocks]
    · rw [value_decodeTexts, decoded, Option.map_some, Option.some.injEq, List.map_eq_nil_iff,
        ← List.length_eq_zero_iff, length_blocks]
      omega

/-- Of a value of nine bytes between other records the listing shows eighteen
digits, and the first sixteen are the one neighbor. -/
theorem decode_agrees_with_listing_nine_bytes :
    let payload : Bytes := [1, 1, 0xAA, 4, 9, 0xAB, 0, 0, 0, 0, 0, 0, 1, 2, 4, 0, 9]
    (inspectReport payload).value.listing.records.find? (fun record => record.tag = 0x04) =
      some ⟨4, 3, [0xAB, 0, 0, 0, 0, 0, 0, 1, 2]⟩ ∧
    (decodeTexts payload).value = some ["ab00000000000001"] ∧
    (decodeReport payload).value.count = 1 := by
  intro payload
  have scanned : (inspectReport payload).value.listing.records =
      [⟨1, 0, [0xAA]⟩, ⟨4, 3, [0xAB, 0, 0, 0, 0, 0, 0, 1, 2]⟩, ⟨4, 14, []⟩] := by
    rw [listing_inspectReport, value_ofPayload]
    exact congrArg Prod.fst (scan_toBytes
      ⟨[⟨1, [0xAA], by decide⟩, ⟨4, [0xAB, 0, 0, 0, 0, 0, 0, 1, 2], by decide⟩,
        ⟨4, [], by decide⟩], [9], .inr (.shortHeader 9)⟩)
  have found : (inspectReport payload).value.listing.records.find?
      (fun record => record.tag = 0x04) = some ⟨4, 3, [0xAB, 0, 0, 0, 0, 0, 0, 1, 2]⟩ := by
    rw [scanned]
    rfl
  rcases (decode_agrees_with_listing payload).2.2 _ found with
    ⟨digits, length, shownDigits, shownLength, texts, count, -⟩
  cases shownDigits
  cases shownLength
  exact ⟨found, texts, count⟩

end Neighbors

end Announce
