import Announce.Proofs.Cut

/-!
# Payloads joined end to end

Where one payload ends without an incomplete record, the next one begins, and the two are
read like each of them alone, the second one further behind.  An incomplete record at the
end of the first payload goes on in the second one and may take up its records.  What was
found in the first payload is found in any case.
-/

namespace Announce

/-- The record when its payload stands behind `distance` other bytes. -/
def Record.shift (distance : Nat) (record : Record) : Record :=
  { record with offset := distance + record.offset }

theorem placeAll_add (distance position : Nat) (entries : List Entry) :
    placeAll (distance + position) entries =
      (placeAll position entries).map (Record.shift distance) := by
  induction entries generalizing position with
  | nil => rfl
  | cons entry entries ih =>
      rw [placeAll, placeAll, List.map_cons, Nat.add_assoc, ih]
      rfl

/-- A scan reads a run of entries and goes on with what stands behind them. -/
theorem scan_wireAll_append (entries : List Entry) (rest : Bytes) :
    scan (wireAll entries ++ rest) =
      (placeAll 0 entries ++ (scan rest).1.map (Record.shift (wireAll entries).length),
        { (scan rest).2 with
          position := (wireAll entries).length + (scan rest).2.position }) := by
  obtain ⟨layout, rfl⟩ := Layout.exists_toBytes_eq rest
  have shifted := placeAll_add (wireAll entries).length 0 layout.entries
  rw [← Layout.toBytes_behind, scan_toBytes, scan_toBytes, Layout.behind, placeAll_append,
    Nat.zero_add, ← shifted, wireAll_append, List.length_append]
  rfl

theorem find?_map_shift (distance : Nat) (records : List Record) (tag : UInt8) :
    ((records.map (Record.shift distance)).find? fun record => record.tag = tag).map
        Record.value =
      (records.find? fun record => record.tag = tag).map Record.value := by
  rw [List.find?_map, Option.map_map]
  rfl

/-- What is looked up behind a run of entries is looked up in them first. -/
theorem findValue_wireAll_append (entries : List Entry) (rest : Bytes) (tag : UInt8) :
    (findValue (wireAll entries ++ rest) tag).value =
      (findValue (wireAll entries) tag).value.or (findValue rest tag).value := by
  rw [findValue_eq, findValue_eq, findValue_eq, scan_wireAll_append, scan_wireAll,
    List.find?_append, Option.map_or, find?_map_shift]

/-- What stands behind a payload adds records behind its own. -/
theorem scan_prefix_append (front back : Bytes) : (scan front).1 <+: (scan (front ++ back)).1 := by
  obtain ⟨later, whole, -, -⟩ := exists_scan_take (front ++ back) front.length
  rw [List.take_left] at whole
  exact ⟨later, whole.symm⟩

theorem findValue_append_of_some {front : Bytes} {tag : UInt8} {value : Bytes}
    (found : (findValue front tag).value = some value) (back : Bytes) :
    (findValue (front ++ back) tag).value = some value := by
  rw [findValue_eq, Option.map_eq_some_iff] at found ⊢
  obtain ⟨record, first, same⟩ := found
  exact ⟨record, (scan_prefix_append front back).find?_eq_some first, same⟩

/-- Behind a payload that is not truncated another one is read as it is read alone, with
its records further behind, and a tag is looked up in both, one after the other.  The
records of any payload are still the first ones when bytes are appended to it, so what was
found under a tag and the neighbors that were found stay what they are. -/
theorem scan_append (front back : Bytes) :
    ((scan front).2.truncated = false →
      (scan (front ++ back)).1 =
        (scan front).1 ++ (scan back).1.map (Record.shift front.length) ∧
      (scan (front ++ back)).2.truncated = (scan back).2.truncated ∧
      (scan (front ++ back)).2.position = front.length + (scan back).2.position ∧
      ∀ tag : UInt8, (findValue (front ++ back) tag).value =
        (findValue front tag).value.or (findValue back tag).value) ∧
    (scan front).1 <+: (scan (front ++ back)).1 ∧
    (∀ (tag : UInt8) (value : Bytes), (findValue front tag).value = some value →
      (findValue (front ++ back) tag).value = some value) ∧
    ∀ ids : List PeerId, (Neighbors.decode front).value = some ids →
      (Neighbors.decode (front ++ back)).value = some ids := by
  refine ⟨?_, scan_prefix_append front back, ?_, ?_⟩
  · intro clean
    obtain ⟨entries, rfl, placed⟩ := exists_wireAll_eq clean
    rw [placed, scan_wireAll_append]
    exact ⟨rfl, rfl, rfl, findValue_wireAll_append entries back⟩
  · intro tag value found
    exact findValue_append_of_some found back
  · intro ids announced
    rw [Neighbors.value_decode, Option.map_eq_some_iff] at announced ⊢
    obtain ⟨value, found, same⟩ := announced
    exact ⟨value, findValue_append_of_some found back, same⟩

/-- Behind a nickname an empty neighbor record is found; behind an unfinished record it
becomes part of the value of that record, and the neighbors in front of it stay. -/
theorem scan_append_swallowed :
    (scan [1, 1, 0xAA]).2.truncated = false ∧
    (scan ([1, 1, 0xAA] ++ [4, 0, 2])).1 = [⟨1, 0, [0xAA]⟩, ⟨4, 3, []⟩] ∧
    (scan ([1, 1, 0xAA] ++ [4, 0, 2])).2.truncated = true ∧
    (scan ([1, 1, 0xAA] ++ [4, 0, 2])).2.position = 5 ∧
    (scan [4, 0, 1, 3]).2.truncated = true ∧
    (Neighbors.decode [4, 0, 1, 3]).value = some [] ∧
    (Neighbors.decode ([4, 0, 1, 3] ++ [4, 0, 2])).value = some [] := by
  have nickname : scan [1, 1, 0xAA] = ([⟨1, 0, [0xAA]⟩], ⟨3, [], false⟩) :=
    scan_toBytes ⟨[⟨1, [0xAA], by decide⟩], [], .inl rfl⟩
  have empty : scan [4, 0, 2] = ([⟨4, 0, []⟩], ⟨2, [2], true⟩) :=
    scan_toBytes ⟨[⟨4, [], by decide⟩], [2], .inr (.shortHeader 2)⟩
  have unfinished : Incomplete [1, 3] := .valuePastEnd 1 3 (by decide)
  have scanned : scan [4, 0, 1, 3] = ([⟨4, 0, []⟩], ⟨2, [1, 3], true⟩) :=
    scan_toBytes ⟨[⟨4, [], by decide⟩], [1, 3], .inr unfinished⟩
  have announced : (Neighbors.decode [4, 0, 1, 3]).value = some [] := by
    rw [Neighbors.decode_eq, scanned]
    decide +kernel
  have clean : (scan [1, 1, 0xAA]).2.truncated = false := by rw [nickname]
  obtain ⟨records, truncated, position, -⟩ := (scan_append [1, 1, 0xAA] [4, 0, 2]).1 clean
  obtain ⟨-, -, -, kept⟩ := scan_append [4, 0, 1, 3] [4, 0, 2]
  rw [nickname, empty] at records
  rw [empty] at truncated position
  exact ⟨clean, records, truncated, position, by rw [scanned], announced, kept [] announced⟩

end Announce
