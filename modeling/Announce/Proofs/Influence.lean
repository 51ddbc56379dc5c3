import Announce.Proofs.NeighborList

/-!
# What the neighbors depend on

Of the records in front of a neighbor record only the headers matter, since they say where
it begins; of its value only the whole identifiers; and of what stands behind it nothing.
A value is never searched for records, whatever it looks like.
-/

namespace Announce

/-- The tag of a record and the length of its value. -/
def Record.header (record : Record) : UInt8 × Nat :=
  (record.tag, record.value.length)

namespace Neighbors

/-- A fragment behind whole identifiers is left out. -/
theorem blocks_append_of_lt {octets fragment : Bytes} (whole : 8 ∣ octets.length)
    (short : fragment.length < 8) : blocks (octets ++ fragment) = blocks octets := by
  fun_induction blocks octets with
  | case1 octets full ih =>
      have later : 8 ∣ (octets.drop 8).length := by
        rw [List.length_drop]
        exact Nat.dvd_sub whole (Nat.dvd_refl 8)
      have longer : 8 ≤ (octets ++ fragment).length := by
        rw [List.length_append]
        exact Nat.le_add_right_of_le full
      rw [blocks, dif_pos longer, List.drop_append_of_le_length full, ih later]
      congr 1
      exact PeerId.ext (List.take_append_of_le_length full)
  | case2 octets few =>
      have empty : octets = [] := by
        rw [← List.length_eq_zero_iff]
        exact Nat.eq_zero_of_dvd_of_lt whole (Nat.lt_of_not_le few)
      rw [empty, List.nil_append, blocks, dif_neg (Nat.not_le.mpr short)]

theorem dvd_length_take (octets : Bytes) :
    8 ∣ (octets.take (8 * (octets.length / 8))).length := by
  rw [List.length_take_of_le (Nat.mul_div_le octets.length 8)]
  exact Nat.dvd_mul_right 8 _

/-- The identifiers in a value are those in its whole blocks. -/
theorem blocks_take (octets : Bytes) :
    blocks (octets.take (8 * (octets.length / 8))) = blocks octets := by
  have short : (octets.drop (8 * (octets.length / 8))).length < 8 := by
    rw [List.length_drop]
    omega
  rw [← blocks_append_of_lt (dvd_length_take octets) short, List.take_append_drop]

/-- A scan that begins with certain headers begins with records that have them. -/
theorem exists_split_of_headers {records : List Record} {headers : List (UInt8 × Nat)}
    {header : UInt8 × Nat} {first : Record}
    (starts : headers ++ [header] <+: records.map Record.header)
    (found : records[headers.length]? = some first) :
    ∃ skipped later, records = skipped ++ first :: later ∧
      skipped.map Record.header = headers ∧ first.header = header := by
  obtain ⟨others, listed⟩ := starts
  rw [List.append_assoc, List.singleton_append] at listed
  obtain ⟨skipped, rest, rfl, skippedHeaders, restHeaders⟩ := List.map_eq_append_iff.mp listed.symm
  obtain ⟨record, later, rfl, same, -⟩ := List.map_eq_cons_iff.mp restHeaders
  rw [← skippedHeaders, List.length_map, List.getElem?_append_right (Nat.le_refl _),
    Nat.sub_self, List.getElem?_cons_zero, Option.some.injEq] at found
  exact ⟨skipped, later, by rw [found], skippedHeaders, found ▸ same⟩

/-- The first record of a scan with the tag of neighbor lists is the one that is read. -/
theorem decode_of_headers {payload : Bytes} {headers : List (UInt8 × Nat)} {length : Nat}
    {first : Record} (others : ∀ header ∈ headers, header.1 ≠ 0x04)
    (starts : headers ++ [(0x04, length)] <+: (scan payload).1.map Record.header)
    (found : (scan payload).1[headers.length]? = some first) :
    (decode payload).value = some (blocks first.value) ∧ first.value.length = length := by
  obtain ⟨skipped, later, split, rfl, header⟩ := exists_split_of_headers starts found
  have tag : first.tag = 0x04 := congrArg Prod.fst header
  have passed : ∀ record ∈ skipped, (!decide (record.tag = 0x04)) = true := by
    intro record member
    rw [Bool.not_eq_true', decide_eq_false_iff_not]
    exact others record.header (List.mem_map_of_mem member)
  have read : (scan payload).1.find? (fun record => record.tag = 0x04) = some first :=
    List.find?_eq_some_iff_append.mpr ⟨decide_eq_true tag, skipped, later, split, passed⟩
  refine ⟨?_, congrArg Prod.snd header⟩
  rw [decode_eq]
  exact congrArg _ read

/-- An entry with the tag of neighbor lists is read if it stands behind entries with other
tags, whatever follows it. -/
theorem decode_wireAll_append {front : List Entry} {entry : Entry}
    (others : ∀ other ∈ front, other.tag ≠ 0x04) (tag : entry.tag = 0x04) (rest : Bytes) :
    (decode (wireAll front ++ entry.wire ++ rest)).value = some (blocks entry.value) := by
  obtain ⟨layout, rfl⟩ := Layout.exists_toBytes_eq rest
  have whole : wireAll front ++ entry.wire ++ layout.toBytes =
      (layout.behind (front ++ [entry])).toBytes := by
    rw [Layout.toBytes_behind, wireAll_append, wireAll_cons, wireAll_nil, List.append_nil]
  have passed : ∀ other ∈ front, (!decide (other.tag = 0x04)) = true := by
    intro other member
    rw [Bool.not_eq_true', decide_eq_false_iff_not]
    exact others other member
  have read : (front ++ [entry] ++ layout.entries).find? (fun entry => entry.tag = 0x04) =
      some entry :=
    List.find?_eq_some_iff_append.mpr
      ⟨decide_eq_true tag, front, layout.entries, by simp, passed⟩
  rw [whole, decode_toBytes]
  exact congrArg _ read

/-- Two payloads whose scans begin with the same headers, up to and including the first one
of a neighbor record, announce the same neighbors if the values of these two records agree
in their whole identifiers.  The values of the records in front, the fragment at the end of
the value and the bytes behind it can be any others: the neighbors stay the same. -/
theorem decode_eq_of_headers {payload payload' : Bytes} {headers : List (UInt8 × Nat)}
    {length : Nat} {first first' : Record} (others : ∀ header ∈ headers, header.1 ≠ 0x04)
    (starts : headers ++ [(0x04, length)] <+: (scan payload).1.map Record.header)
    (starts' : headers ++ [(0x04, length)] <+: (scan payload').1.map Record.header)
    (found : (scan payload).1[headers.length]? = some first)
    (found' : (scan payload').1[headers.length]? = some first')
    (agree : first.value.take (8 * (length / 8)) = first'.value.take (8 * (length / 8))) :
    (decode payload).value = (decode payload').value ∧
    (decode payload).value.map List.length = some (length / 8) ∧
    ∀ (pairs : List (UInt8 × Bytes)) (fragment written record after : Bytes),
      pairs.map (fun pair => (pair.1, pair.2.length)) = headers → fragment.length < 8 →
      Record.encodeAll pairs = .ok written →
      Record.encode 0x04 (first.value.take (8 * (length / 8)) ++ fragment) = .ok record →
      (decode (written ++ record ++ after)).value = (decode payload).value := by
  obtain ⟨decoded, size⟩ := decode_of_headers others starts found
  obtain ⟨decoded', size'⟩ := decode_of_headers others starts' found'
  have same : blocks first.value = blocks first'.value := by
    rw [← blocks_take first.value, ← blocks_take first'.value, size, size', agree]
  refine ⟨?_, ?_, ?_⟩
  · rw [decoded, decoded', same]
  · rw [decoded, Option.map_some, length_blocks, size]
  · intro pairs fragment written record after sameHeaders short encodedAll encoded
    obtain ⟨entries, rfl, rfl⟩ := exists_entries_of_encodeAll encodedAll
    obtain ⟨entry, tag, value, rfl⟩ := Entry.exists_of_encode encoded
    have passed : ∀ other ∈ entries, other.tag ≠ 0x04 := by
      intro other member
      apply others (other.tag, other.value.length)
      rw [← sameHeaders, List.map_map]
      exact List.mem_map_of_mem member
    rw [decode_wireAll_append passed tag, value, ← size,
      blocks_append_of_lt (dvd_length_take first.value) short, blocks_take, decoded]

/-- A value that looks like a neighbor record, a fragment and an unfinished record behind
it: none of them is read. -/
theorem decode_eq_of_headers_lookalike :
    let payload : Bytes := [1, 2, 4, 0, 4, 9, 0xAB, 0, 0, 0, 0, 0, 0, 1, 7, 4]
    let payload' : Bytes := [1, 2, 0, 0, 4, 9, 0xAB, 0, 0, 0, 0, 0, 0, 1, 8]
    let first : Record := ⟨4, 4, [0xAB, 0, 0, 0, 0, 0, 0, 1, 7]⟩
    let first' : Record := ⟨4, 4, [0xAB, 0, 0, 0, 0, 0, 0, 1, 8]⟩
    ((scan payload).1 = [⟨1, 0, [4, 0]⟩, first] ∧ (scan payload').1 = [⟨1, 0, [0, 0]⟩, first'] ∧
      first.value.take 8 = first'.value.take 8) ∧
    (decode payload).value = (decode payload').value ∧
    (decode payload).value.map List.length = some 1 ∧
    (decode ([1, 2, 4, 8] ++ [4, 8, 0xAB, 0, 0, 0, 0, 0, 0, 1] ++ [4, 0])).value =
      (decode payload).value := by
  intro payload payload' first first'
  have scanned : (scan payload).1 = [⟨1, 0, [4, 0]⟩, first] :=
    congrArg Prod.fst (scan_toBytes
      ⟨[⟨1, [4, 0], by decide⟩, ⟨4, [0xAB, 0, 0, 0, 0, 0, 0, 1, 7], by decide⟩], [4],
        .inr (.shortHeader 4)⟩)
  have scanned' : (scan payload').1 = [⟨1, 0, [0, 0]⟩, first'] :=
    congrArg Prod.fst (scan_toBytes
      ⟨[⟨1, [0, 0], by decide⟩, ⟨4, [0xAB, 0, 0, 0, 0, 0, 0, 1, 8], by decide⟩], [], .inl rfl⟩)
  have starts : [(1, 2)] ++ [(0x04, 9)] <+: (scan payload).1.map Record.header := by
    rw [scanned]
    exact List.prefix_refl _
  have starts' : [(1, 2)] ++ [(0x04, 9)] <+: (scan payload').1.map Record.header := by
    rw [scanned']
    exact List.prefix_refl _
  have found : (scan payload).1[1]? = some first := by rw [scanned]; rfl
  have found' : (scan payload').1[1]? = some first' := by rw [scanned']; rfl
  obtain ⟨same, count, rewritten⟩ :=
    decode_eq_of_headers (by decide) starts starts' found found' rfl
  exact ⟨⟨scanned, scanned', rfl⟩, same, count,
    rewritten [(1, [4, 8])] [] _ _ [4, 0] rfl (by decide) rfl rfl⟩

end Neighbors

end Announce
