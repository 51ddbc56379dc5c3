import Announce.Proofs.NeighborList
import Mathlib.Order.Bounds.Defs

/-!
# Payloads cut short

A payload that has lost its end still holds the records in front of the cut, in
their places and with their values.  Of the record through which the cut goes
nothing is read, so a neighbor list is read whole or not at all.
-/

namespace Announce

/-! ## The bytes of one record -/

/-- The front of an incomplete record is incomplete, or nothing. -/
theorem Incomplete.take {tail : Bytes} (incomplete : Incomplete tail) (count : Nat) :
    tail.take count = [] ∨ Incomplete (tail.take count) := by
  cases incomplete with
  | shortHeader tag =>
      cases count with
      | zero => exact .inl rfl
      | succ count => exact .inr (by simpa using .shortHeader tag)
  | valuePastEnd tag length short =>
      match count with
      | 0 => exact .inl rfl
      | 1 => exact .inr (.shortHeader tag)
      | count + 2 =>
          right
          apply Incomplete.valuePastEnd
          exact Nat.lt_of_le_of_lt (List.length_take_le' _ _) short

/-- A cut through an entry leaves an incomplete record of it, or nothing. -/
theorem Entry.take_wire {entry : Entry} {count : Nat} (short : count < entry.size) :
    entry.wire.take count = [] ∨ Incomplete (entry.wire.take count) := by
  match count with
  | 0 => exact .inl rfl
  | 1 => exact .inr (.shortHeader entry.tag)
  | count + 2 =>
      right
      apply Incomplete.valuePastEnd
      rw [entry.toNat_length]
      simp only [Entry.size, Record.headerSize] at short
      rw [List.length_take]
      omega

/-! ## The entries in front of a cut -/

/-- Where a cut goes through a run of entries: those in `front` are in front of the
cut, and the first one in `back`, if there is one, is not. -/
structure CutAt (count : Nat) (front back : List Entry) : Prop where
  inside : (wireAll front).length ≤ count
  outside : ∀ entry later, back = entry :: later → count < (wireAll front).length + entry.size

/-- The cut payload has a layout with the entries in front of the cut. -/
theorem Layout.exists_take (layout : Layout) (count : Nat) :
    ∃ front back, layout.entries = front ++ back ∧ CutAt count front back ∧
      ∃ tail, (tail = [] ∨ Incomplete tail) ∧
        layout.toBytes.take count = wireAll front ++ tail := by
  rcases layout with ⟨entries, tail, ending⟩
  simp only [Layout.toBytes]
  induction entries generalizing count with
  | nil =>
      refine ⟨[], [], rfl, ⟨Nat.zero_le _, by simp⟩, tail.take count, ?_, rfl⟩
      rcases ending with rfl | incomplete
      · exact .inl List.take_nil
      · exact incomplete.take count
  | cons entry entries ih =>
      by_cases fits : entry.size ≤ count
      · rcases ih (count - entry.size) with
          ⟨front, back, rfl, ⟨inside, outside⟩, rest, restEnding, taken⟩
        refine ⟨entry :: front, back, rfl, ⟨?_, ?_⟩, rest, restEnding, ?_⟩
        · simp only [wireAll_cons, List.length_append, Entry.length_wire]
          omega
        · intro next later same
          have := outside next later same
          simp only [wireAll_cons, List.length_append, Entry.length_wire]
          omega
        · rw [wireAll_cons, List.append_assoc, List.take_append, entry.length_wire, taken,
            List.take_of_length_le (by rw [entry.length_wire]; exact fits), wireAll_cons,
            List.append_assoc]
      · have short : count < entry.size := Nat.lt_of_not_le fits
        refine ⟨[], entry :: entries, rfl, ⟨Nat.zero_le _, ?_⟩, entry.wire.take count,
          Entry.take_wire short, ?_⟩
        · rintro next later same
          cases same
          simpa using short
        · rw [wireAll_cons, List.append_assoc,
            List.take_append_of_le_length (by rw [entry.length_wire]; omega)]
          rfl

namespace CutAt

variable {count : Nat} {front back : List Entry}

theorem end_le (cut : CutAt count front back) {record : Record}
    (member : record ∈ placeAll 0 front) : record.offset + record.size ≤ count := by
  have := (bounds_of_mem_placeAll member).2
  have := cut.inside
  omega

theorem lt_end (cut : CutAt count front back) {record : Record}
    (member : record ∈ placeAll (wireAll front).length back) :
    count < record.offset + record.size := by
  cases back with
  | nil => simp [placeAll] at member
  | cons entry later =>
      have outside := cut.outside entry later rfl
      rcases List.mem_cons.mp member with rfl | behind
      · exact outside
      · have := (bounds_of_mem_placeAll behind).1
        omega

end CutAt

/-- The records of a payload that end in front of a cut are those of the cut payload. -/
theorem exists_scan_take (payload : Bytes) (count : Nat) :
    ∃ back, (scan payload).1 = (scan (payload.take count)).1 ++ back ∧
      (∀ record ∈ (scan (payload.take count)).1, record.offset + record.size ≤ count) ∧
      ∀ record ∈ back, count < record.offset + record.size := by
  rcases Layout.exists_toBytes_eq payload with ⟨layout, rfl⟩
  rcases layout.exists_take count with ⟨front, back, entries, cut, tail, ending, taken⟩
  have kept : (scan (layout.toBytes.take count)).1 = placeAll 0 front := by
    rw [taken]
    exact congrArg Prod.fst (scan_toBytes ⟨front, tail, ending⟩)
  rw [kept, scan_toBytes, entries, placeAll_append, Nat.zero_add]
  exact ⟨_, rfl, fun record member => cut.end_le member, fun record member => cut.lt_end member⟩

theorem scan_take_eq_filter (payload : Bytes) (count : Nat) :
    (scan (payload.take count)).1 =
      (scan payload).1.filter fun record => record.offset + record.size ≤ count := by
  rcases exists_scan_take payload count with ⟨back, whole, before, behind⟩
  have kept : (scan (payload.take count)).1.filter
      (fun record => record.offset + record.size ≤ count) = (scan (payload.take count)).1 :=
    List.filter_eq_self.mpr fun record member => decide_eq_true (before record member)
  have dropped : back.filter (fun record => record.offset + record.size ≤ count) = [] :=
    List.filter_eq_nil_iff.mpr fun record member => by simpa using behind record member
  rw [whole, List.filter_append, kept, dropped, List.append_nil]

/-- The places at which a record of a list ends, and the front of the payload. -/
def boundaries (records : List Record) : Set Nat :=
  {place | place = 0 ∨ ∃ record ∈ records, place = record.offset + record.size}

/-- The scan of a cut payload stops at the last boundary up to the cut. -/
theorem isGreatest_position_scan_take (payload : Bytes) (count : Nat) :
    IsGreatest {place ∈ boundaries (scan payload).1 | place ≤ count}
      (scan (payload.take count)).2.position := by
  rcases exists_scan_take payload count with ⟨back, whole, before, behind⟩
  rw [whole]
  constructor
  · constructor
    · rw [position_scan]
      rcases endOfRecords_eq_zero_or (scan (payload.take count)).1 with
        empty | ⟨last, member, same⟩
      · exact .inl empty
      · exact .inr ⟨last, List.mem_append_left back member, same⟩
    · exact Nat.le_trans (position_scan_le _) (List.length_take_le count payload)
  · rintro place ⟨rfl | ⟨record, member, rfl⟩, upTo⟩
    · exact Nat.zero_le _
    · rcases List.mem_append.mp member with kept | dropped
      · exact end_le_position_scan kept
      · exact absurd upTo (Nat.not_le.mpr (behind record dropped))

/-- The first record that a test accepts is found in front of a cut exactly if it
ends there. -/
theorem find?_scan_take {payload : Bytes} {accept : Record → Bool} {first : Record}
    (count : Nat) (found : (scan payload).1.find? accept = some first) :
    (scan (payload.take count)).1.find? accept =
      if first.offset + first.size ≤ count then some first else none := by
  rcases exists_scan_take payload count with ⟨back, whole, before, behind⟩
  rw [whole, List.find?_append] at found
  cases kept : (scan (payload.take count)).1.find? accept with
  | some record =>
      rw [kept, Option.some_or, Option.some.injEq] at found
      subst found
      rw [if_pos (before record (List.mem_of_find?_eq_some kept))]
  | none =>
      rw [kept, Option.none_or] at found
      have late := behind first (List.mem_of_find?_eq_some found)
      rw [if_neg (Nat.not_le.mpr late)]

/-- The scan of a cut payload yields the records that end up to the cut, and stops
at the last boundary there is up to it.  It is truncated unless the cut is this
boundary.  A neighbor list is not found if the cut is in front of the end of its
record, and otherwise it is the one of the whole payload. -/
theorem scan_take (payload : Bytes) (count : Nat) (inside : count ≤ payload.length) :
    let records := (scan payload).1
    let cut := scan (payload.take count)
    cut.1 = records.filter (fun record => record.offset + record.size ≤ count) ∧
    IsGreatest {place ∈ boundaries records | place ≤ count} cut.2.position ∧
    (cut.2.truncated = true ↔ count ≠ cut.2.position) ∧
    ((∀ record ∈ records, record.tag ≠ 0x04) →
      (Neighbors.decode (payload.take count)).value = none) ∧
    ∀ first, records.find? (fun record => record.tag = 0x04) = some first →
      (count < first.offset + first.size →
        (Neighbors.decode (payload.take count)).value = none) ∧
      (first.offset + first.size ≤ count →
        (Neighbors.decode (payload.take count)).value = (Neighbors.decode payload).value) := by
  have truncated := truncated_scan_iff_ne (payload.take count)
  rw [List.length_take_of_le inside] at truncated
  refine ⟨scan_take_eq_filter payload count, isGreatest_position_scan_take payload count,
    truncated, ?_, ?_⟩
  · intro absent
    rw [Neighbors.decode_eq, scan_take_eq_filter, Option.map_eq_none_iff, List.find?_eq_none]
    intro record member
    rw [decide_eq_true_eq]
    exact absent record (List.mem_filter.mp member).1
  · intro first found
    have cutFound := find?_scan_take count found
    constructor
    · intro early
      rw [if_neg (Nat.not_le.mpr early)] at cutFound
      rw [Neighbors.decode_eq]
      exact congrArg (Option.map _) cutFound
    · intro late
      rw [if_pos late, ← found] at cutFound
      rw [Neighbors.decode_eq, Neighbors.decode_eq]
      exact congrArg (Option.map _) cutFound

/-- A cut through the third record: the neighbors of the second are read, and the
scan is truncated at its end. -/
theorem scan_take_through_third :
    let payload : Bytes := [1, 1, 0xAA, 4, 8, 0xAB, 0, 0, 0, 0, 0, 0, 1, 4, 0]
    let first : Record := ⟨4, 3, [0xAB, 0, 0, 0, 0, 0, 0, 1]⟩
    (14 ≤ payload.length ∧
      (scan payload).1.find? (fun record => record.tag = 0x04) = some first ∧
      first.offset + first.size ≤ 14) ∧
    (scan (payload.take 14)).1 = [⟨1, 0, [0xAA]⟩, first] ∧
    (Neighbors.decode (payload.take 14)).value = (Neighbors.decode payload).value := by
  intro payload first
  have scanned : (scan payload).1 = [⟨1, 0, [0xAA]⟩, first, ⟨4, 13, []⟩] :=
    congrArg Prod.fst (scan_toBytes
      ⟨[⟨1, [0xAA], by decide⟩, ⟨4, [0xAB, 0, 0, 0, 0, 0, 0, 1], by decide⟩,
        ⟨4, [], by decide⟩], [], .inl rfl⟩)
  have found : (scan payload).1.find? (fun record => record.tag = 0x04) = some first := by
    rw [scanned]
    rfl
  rcases scan_take payload 14 (by decide) with ⟨kept, -, -, -, neighbors⟩
  refine ⟨⟨by decide, found, by decide⟩, ?_, (neighbors first found).2 (by decide)⟩
  rw [kept, scanned]
  rfl

end Announce
