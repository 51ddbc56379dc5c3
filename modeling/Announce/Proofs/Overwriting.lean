import Announce.Proofs.Cut

/-!
# Payloads with one byte overwritten

What a byte of a payload says depends on where it stands.  A byte in a value or a tag is
part of one record and of nothing else; a length byte decides where all later records
stand.  No byte has a say in the records in front of it.
-/

namespace Announce

/-! ## Records and entries -/

/-- The record when the byte at `place` of its payload is overwritten, and this byte is not
its length. -/
def Record.overwritten (place : Nat) (octet : UInt8) (record : Record) : Record :=
  if place = record.offset then
    { record with tag := octet }
  else if record.offset + headerSize ≤ place ∧ place < record.offset + record.size then
    { record with value := record.value.set (place - (record.offset + headerSize)) octet }
  else
    record

namespace Record

variable {place : Nat} {octet : UInt8} {record : Record}

/-- A byte outside a record is no part of it. -/
theorem overwritten_of_outside
    (outside : place < record.offset ∨ record.offset + record.size ≤ place) (octet : UInt8) :
    record.overwritten place octet = record := by
  have notTag : place ≠ record.offset := by
    rintro rfl
    simp only [size, headerSize] at outside
    omega
  have notValue : ¬(record.offset + headerSize ≤ place ∧ place < record.offset + record.size) := by
    omega
  rw [overwritten, if_neg notTag, if_neg notValue]

theorem map_overwritten_of_outside {records : List Record}
    (outside : ∀ record ∈ records, place < record.offset ∨ record.offset + record.size ≤ place)
    (octet : UInt8) : records.map (overwritten place octet) = records :=
  calc records.map (overwritten place octet)
      = records.map id := List.map_congr_left fun record member =>
        overwritten_of_outside (outside record member) octet
    _ = records := List.map_id records

theorem offset_overwritten (place : Nat) (octet : UInt8) (record : Record) :
    (record.overwritten place octet).offset = record.offset := by
  unfold overwritten
  split
  · rfl
  · split <;> rfl

theorem length_overwritten (place : Nat) (octet : UInt8) (record : Record) :
    (record.overwritten place octet).value.length = record.value.length := by
  unfold overwritten
  split
  · rfl
  · split
    · exact List.length_set
    · rfl

end Record

namespace Entry

/-- The entry when the byte at a place in it is overwritten, and this byte is not its
length. -/
def overwritten (index : Nat) (octet : UInt8) (entry : Entry) : Entry :=
  match index with
  | 0 => { entry with tag := octet }
  | 1 => entry
  | index + 2 =>
      { entry with
        value := entry.value.set index octet
        fits := by rw [List.length_set]; exact entry.fits }

theorem size_overwritten (index : Nat) (octet : UInt8) (entry : Entry) :
    (entry.overwritten index octet).size = entry.size := by
  match index with
  | 0 => rfl
  | 1 => rfl
  | index + 2 => rw [size, overwritten, List.length_set, size]

theorem wire_overwritten {index : Nat} (notLength : index ≠ 1) (octet : UInt8)
    (entry : Entry) : (entry.overwritten index octet).wire = entry.wire.set index octet := by
  match index with
  | 0 => rfl
  | 1 => exact absurd rfl notLength
  | index + 2 =>
      rw [wire, overwritten, List.length_set]
      rfl

theorem placedAt_overwritten {index : Nat} {entry : Entry} (inside : index < entry.size)
    (position : Nat) (octet : UInt8) :
    (entry.overwritten index octet).placedAt position =
      (entry.placedAt position).overwritten (position + index) octet := by
  match index with
  | 0 => exact (if_pos rfl).symm
  | 1 =>
      rw [Record.overwritten, if_neg (by simp [placedAt]), if_neg]
      · rfl
      · intro within
        simp [placedAt, Record.headerSize] at within
  | index + 2 =>
      rw [Record.overwritten, if_neg (by simp [placedAt]), if_pos]
      · simp [placedAt, overwritten, Record.headerSize, ← Nat.add_assoc]
      · rw [size_placedAt]
        exact ⟨Nat.add_le_add_left (Nat.le_add_left 2 index) position,
          Nat.add_lt_add_left inside position⟩

end Entry

/-! ## Payloads -/

/-- The bytes of entries with one of them overwritten, which is not a length byte, are the
bytes of entries again. -/
theorem exists_wireAll_set {entries : List Entry} {position index : Nat}
    (notLength : ∀ record ∈ placeAll position entries, position + index ≠ record.offset + 1)
    (octet : UInt8) :
    ∃ changed : List Entry, wireAll changed = (wireAll entries).set index octet ∧
      placeAll position changed =
        (placeAll position entries).map (Record.overwritten (position + index) octet) := by
  induction entries generalizing position index with
  | nil => exact ⟨[], rfl, rfl⟩
  | cons entry entries ih =>
      by_cases inside : index < entry.size
      · -- The byte is in the first entry, and all others stay where they are.
        have other : index ≠ 1 := by
          rintro rfl
          exact notLength (entry.placedAt position) (.head _) rfl
        refine ⟨entry.overwritten index octet :: entries, ?_, ?_⟩
        · rw [wireAll_cons, wireAll_cons, entry.wire_overwritten other,
            List.set_append_left _ _ (by rwa [entry.length_wire])]
        · have before : ∀ record ∈ placeAll (position + entry.size) entries,
              position + index < record.offset := fun record member =>
            Nat.lt_of_lt_of_le (Nat.add_lt_add_left inside position)
              (bounds_of_mem_placeAll member).1
          have later := Record.map_overwritten_of_outside
            (fun record member => .inl (before record member)) octet
          rw [placeAll, placeAll, List.map_cons, Entry.placedAt_overwritten inside,
            Entry.size_overwritten, later]
      · -- The byte is behind the first entry, which stays as it is.
        obtain ⟨behind, rfl⟩ := Nat.exists_eq_add_of_le (Nat.le_of_not_lt inside)
        have notLater : ∀ record ∈ placeAll (position + entry.size) entries,
            position + entry.size + behind ≠ record.offset + 1 := by
          intro record member
          rw [Nat.add_assoc]
          exact notLength record (.tail _ member)
        obtain ⟨changed, wire, placed⟩ := ih notLater
        refine ⟨entry :: changed, ?_, ?_⟩
        · rw [wireAll_cons, wireAll_cons, wire, ← entry.length_wire,
            List.set_append_right _ _ (Nat.le_add_right _ _), Nat.add_sub_cancel_left]
        · have first : (entry.placedAt position).overwritten (position + (entry.size + behind))
              octet = entry.placedAt position := by
            apply Record.overwritten_of_outside
            right
            rw [entry.size_placedAt, ← Nat.add_assoc]
            exact Nat.le_add_right _ _
          rw [placeAll, placeAll, List.map_cons, first, placed, Nat.add_assoc]

/-- An incomplete record stays incomplete if a byte of it is overwritten that is not its
length. -/
theorem Incomplete.set {tail : Bytes} (incomplete : Incomplete tail) {index : Nat}
    (notLength : index ≠ 1) (octet : UInt8) : Incomplete (tail.set index octet) := by
  cases incomplete with
  | shortHeader tag =>
      cases index with
      | zero => exact .shortHeader octet
      | succ index => exact .shortHeader tag
  | valuePastEnd tag length short =>
      match index with
      | 0 => exact .valuePastEnd octet length short
      | 1 => exact absurd rfl notLength
      | index + 2 =>
          apply Incomplete.valuePastEnd
          rwa [List.length_set]

/-- A payload with one byte overwritten, which is not a length byte, has a layout in which
everything stands where it stood. -/
theorem Layout.exists_set {layout : Layout} {place : Nat}
    (notLength : ∀ record ∈ placeAll 0 layout.entries, place ≠ record.offset + 1)
    (notTail : layout.tail ≠ [] → place ≠ (wireAll layout.entries).length + 1) (octet : UInt8) :
    ∃ changed : Layout, changed.toBytes = layout.toBytes.set place octet ∧
      placeAll 0 changed.entries =
        (placeAll 0 layout.entries).map (Record.overwritten place octet) ∧
      (wireAll changed.entries).length = (wireAll layout.entries).length ∧
      changed.tail.isEmpty = layout.tail.isEmpty := by
  obtain ⟨entries, tail, ending⟩ := layout
  dsimp only [toBytes] at notLength notTail ⊢
  by_cases inside : place < (wireAll entries).length
  · have clear : ∀ record ∈ placeAll 0 entries, 0 + place ≠ record.offset + 1 := by
      rw [Nat.zero_add]
      exact notLength
    obtain ⟨changed, wire, placed⟩ := exists_wireAll_set clear octet
    refine ⟨⟨changed, tail, ending⟩, ?_, ?_, ?_, rfl⟩
    · rw [List.set_append_left _ _ inside, ← wire]
    · rw [placed, Nat.zero_add]
    · rw [wire, List.length_set]
  · obtain ⟨behind, rfl⟩ := Nat.exists_eq_add_of_le (Nat.le_of_not_lt inside)
    have changedEnding : tail.set behind octet = [] ∨ Incomplete (tail.set behind octet) := by
      cases ending with
      | inl empty => exact .inl (by rw [empty]; rfl)
      | inr incomplete =>
          right
          apply incomplete.set
          rintro rfl
          exact notTail incomplete.ne_nil rfl
    refine ⟨⟨entries, tail.set behind octet, changedEnding⟩, ?_, ?_, rfl, ?_⟩
    · rw [List.set_append_right _ _ (Nat.le_add_right _ _), Nat.add_sub_cancel_left]
    · symm
      apply Record.map_overwritten_of_outside
      intro record member
      right
      have ends := (bounds_of_mem_placeAll member).2
      rw [Nat.zero_add] at ends
      exact Nat.le_trans ends (Nat.le_add_right _ _)
    · rw [Bool.eq_iff_iff, List.isEmpty_iff, List.isEmpty_iff, List.set_eq_nil_iff]

/-- The records that end in front of a place depend on nothing but the bytes in front of
it. -/
theorem getElem?_scan_of_take_eq {payload payload' : Bytes} {count index : Nat}
    {record : Record} (same : payload.take count = payload'.take count)
    (found : (scan payload).1[index]? = some record)
    (ends : record.offset + record.size ≤ count) : (scan payload').1[index]? = some record := by
  obtain ⟨back, whole, -, behind⟩ := exists_scan_take payload count
  obtain ⟨back', whole', -, -⟩ := exists_scan_take payload' count
  rw [whole] at found
  rw [whole', ← same]
  by_cases kept : index < (scan (payload.take count)).1.length
  · rwa [List.getElem?_append_left kept] at found ⊢
  · rw [List.getElem?_append_right (Nat.le_of_not_lt kept)] at found
    have late := behind record (List.mem_of_getElem? found)
    exact absurd ends (Nat.not_le.mpr late)

/-- Overwriting a byte leaves the records that end in front of it as they are, each in its
place.  If the byte is no length byte, of a record or of the incomplete record at the end,
the scan reads the same number of records with the same places and lengths and ends in the
same way.  Only the record with the byte in it is another one: its tag is overwritten, or
one byte of its value. -/
theorem scan_set (payload : Bytes) (place : Nat) (octet : UInt8) :
    let before := scan payload
    let after := scan (payload.set place octet)
    (∀ (index : Nat) (record : Record), before.1[index]? = some record →
      record.offset + record.size ≤ place → after.1[index]? = some record) ∧
    ((∀ record ∈ before.1, place ≠ record.offset + 1) →
      (before.2.truncated = true → place ≠ before.2.position + 1) →
      after.1 = before.1.map (Record.overwritten place octet) ∧
      after.1.map Record.offset = before.1.map Record.offset ∧
      after.1.map (fun record => record.value.length) =
        before.1.map (fun record => record.value.length) ∧
      after.2.position = before.2.position ∧
      after.2.truncated = before.2.truncated) := by
  dsimp only
  constructor
  · intro index record found ends
    have front : payload.take place = (payload.set place octet).take place :=
      (List.take_set_of_le (Nat.le_refl place)).symm
    exact getElem?_scan_of_take_eq front found ends
  · intro notLength notTail
    obtain ⟨layout, rfl⟩ := Layout.exists_toBytes_eq payload
    rw [scan_toBytes] at notLength notTail ⊢
    obtain ⟨changed, written, placed, stop, tail⟩ :=
      layout.exists_set notLength (by simpa using notTail) octet
    rw [← written, scan_toBytes, placed, stop, tail]
    refine ⟨rfl, ?_, ?_, rfl, rfl⟩
    · rw [List.map_map]
      exact List.map_congr_left fun record _ => record.offset_overwritten place octet
    · rw [List.map_map]
      exact List.map_congr_left fun record _ => record.length_overwritten place octet

/-- The last byte of a nickname becomes a four, which is not taken for a tag; a longer
length in the record behind it does not reach back. -/
theorem scan_set_nickname :
    let payload : Bytes := [1, 2, 0xAA, 0xBB, 4, 0, 9]
    let records : List Record := [⟨1, 0, [0xAA, 0xBB]⟩, ⟨4, 4, []⟩]
    (scan payload = (records, ⟨6, [9], true⟩) ∧
      (∀ record ∈ records, 3 ≠ record.offset + 1) ∧ 3 ≠ 6 + 1) ∧
    (scan (payload.set 3 4)).1 = [⟨1, 0, [0xAA, 4]⟩, ⟨4, 4, []⟩] ∧
    (scan (payload.set 3 4)).2.position = 6 ∧ (scan (payload.set 3 4)).2.truncated = true ∧
    (scan (payload.set 5 2)).1[0]? = some ⟨1, 0, [0xAA, 0xBB]⟩ := by
  intro payload records
  have scanned : scan payload = (records, ⟨6, [9], true⟩) :=
    scan_toBytes ⟨[⟨1, [0xAA, 0xBB], by decide⟩, ⟨4, [], by decide⟩], [9],
      .inr (.shortHeader 9)⟩
  have notLength : ∀ record ∈ records, 3 ≠ record.offset + 1 := by decide
  obtain ⟨-, value⟩ := scan_set payload 3 4
  obtain ⟨front, -⟩ := scan_set payload 5 2
  rw [scanned] at value front
  obtain ⟨changed, -, -, position, truncated⟩ := value notLength fun _ => by decide
  exact ⟨⟨scanned, notLength, by decide⟩, changed, position, truncated,
    front 0 _ rfl (by decide)⟩

end Announce
