import Announce.Neighbors

/-!
# Blocks of a fixed size

The value of a neighbor record is read in blocks of eight bytes, and the digits
of a value can be cut into blocks of sixteen characters.  A byte has two digits,
so the two ways to cut a value agree.
-/

namespace Announce

/-- The consecutive blocks of `size` items.  Items behind the last full block are
left out. -/
def fullBlocks {α : Type} (size : Nat) (items : List α) : List (List α) :=
  (List.range (items.length / size)).map fun index => (items.drop (size * index)).take size

section

variable {α β : Type} {size width : Nat} {items : List α} {image : α → List β}

@[simp] theorem length_fullBlocks : (fullBlocks size items).length = items.length / size := by
  simp [fullBlocks]

theorem fullBlocks_of_lt (short : items.length < size) : fullBlocks size items = [] := by
  simp [fullBlocks, Nat.div_eq_of_lt short]

theorem fullBlocks_of_le (positive : 0 < size) (full : size ≤ items.length) :
    fullBlocks size items = items.take size :: fullBlocks size (items.drop size) := by
  have count : items.length / size = (items.drop size).length / size + 1 := by
    rw [List.length_drop, Nat.div_eq_sub_div positive full]
  rw [fullBlocks, count, List.range_succ_eq_map, List.map_cons, List.map_map]
  congr 1
  apply List.map_congr_left
  intro index _
  simp [List.drop_drop, Nat.mul_succ, Nat.add_comm]

/-! ## Items written with a fixed number of others each -/

theorem length_flatMap_of_width (uniform : ∀ item, (image item).length = width) :
    (items.flatMap image).length = width * items.length := by
  induction items with
  | nil => rfl
  | cons item items ih =>
      rw [List.flatMap_cons, List.length_append, uniform, ih, List.length_cons, Nat.mul_succ,
        Nat.add_comm]

theorem drop_flatMap_of_width (uniform : ∀ item, (image item).length = width) (count : Nat) :
    (items.flatMap image).drop (width * count) = (items.drop count).flatMap image := by
  induction count generalizing items with
  | zero => simp
  | succ count ih =>
      cases items with
      | nil => simp
      | cons item items =>
          rw [Nat.mul_succ, Nat.add_comm, ← List.drop_drop, List.flatMap_cons,
            List.drop_left' (uniform item), ih, List.drop_succ_cons]

theorem take_flatMap_of_width (uniform : ∀ item, (image item).length = width) (count : Nat) :
    (items.flatMap image).take (width * count) = (items.take count).flatMap image := by
  induction count generalizing items with
  | zero => simp
  | succ count ih =>
      cases items with
      | nil => simp
      | cons item items =>
          rw [Nat.mul_succ, Nat.add_comm, List.flatMap_cons, ← uniform item,
            List.take_length_add_append, uniform item, ih, List.take_succ_cons,
            List.flatMap_cons]

/-- Writing each item with `width` others and then cutting is the same as cutting
first and then writing each block. -/
theorem fullBlocks_flatMap (positive : 0 < width)
    (uniform : ∀ item, (image item).length = width) :
    fullBlocks (width * size) (items.flatMap image) =
      (fullBlocks size items).map (·.flatMap image) := by
  simp only [fullBlocks, length_flatMap_of_width uniform, Nat.mul_div_mul_left _ _ positive,
    List.map_map]
  apply List.map_congr_left
  intro index _
  simp only [Function.comp, Nat.mul_assoc, drop_flatMap_of_width uniform,
    take_flatMap_of_width uniform]

end

namespace Neighbors

theorem length_flatMap_bytes (ids : List PeerId) :
    (ids.flatMap PeerId.bytes).length = 8 * ids.length :=
  length_flatMap_of_width PeerId.length_bytes

/-- The blocks of identifiers written one after the other are these identifiers. -/
theorem blocks_flatMap_bytes (ids : List PeerId) : blocks (ids.flatMap PeerId.bytes) = ids := by
  induction ids with
  | nil => rw [List.flatMap_nil, blocks]; rfl
  | cons id ids ih =>
      have full : 8 ≤ (id.bytes ++ ids.flatMap PeerId.bytes).length := by
        rw [List.length_append, id.length_bytes]
        omega
      rw [List.flatMap_cons, blocks, dif_pos full]
      congr 1
      · exact PeerId.ext (List.take_left' id.length_bytes)
      · rw [List.drop_left' id.length_bytes, ih]

/-- The identifiers that are read from a value are its full blocks of eight bytes. -/
theorem bytes_blocks (octets : Bytes) :
    (blocks octets).map PeerId.bytes = fullBlocks 8 octets := by
  fun_induction blocks octets with
  | case1 octets full ih => rw [List.map_cons, ih, fullBlocks_of_le (by decide) full]
  | case2 octets short => rw [fullBlocks_of_lt (Nat.lt_of_not_le short), List.map_nil]

theorem length_blocks (octets : Bytes) : (blocks octets).length = octets.length / 8 := by
  rw [← List.length_map PeerId.bytes, bytes_blocks, length_fullBlocks]

/-- Nothing of a value is left out if its length is a multiple of eight. -/
theorem flatMap_bytes_blocks {octets : Bytes} (whole : 8 ∣ octets.length) :
    (blocks octets).flatMap PeerId.bytes = octets := by
  fun_induction blocks octets with
  | case1 octets full ih =>
      have later : 8 ∣ (octets.drop 8).length := by
        rw [List.length_drop]
        exact Nat.dvd_sub whole (Nat.dvd_refl 8)
      rw [List.flatMap_cons, ih later, List.take_append_drop]
  | case2 octets short =>
      have empty : octets.length = 0 :=
        Nat.eq_zero_of_dvd_of_lt whole (Nat.lt_of_not_le short)
      rw [List.length_eq_zero_iff.mp empty, List.flatMap_nil]

/-- The digits of the identifiers in a value are the full blocks of sixteen of the
digits of the value. -/
theorem toHex_blocks (octets : Bytes) :
    (blocks octets).map PeerId.toHex =
      (fullBlocks 16 (Hex.encode octets).toList).map String.ofList := by
  have pairs : ∀ octet, (Hex.ofByte octet).length = 2 := fun _ => rfl
  calc (blocks octets).map PeerId.toHex
      = ((blocks octets).map PeerId.bytes).map Hex.encode := by
        rw [List.map_map]
        rfl
    _ = ((fullBlocks 8 octets).map (·.flatMap Hex.ofByte)).map String.ofList := by
        rw [bytes_blocks, List.map_map]
        rfl
    _ = (fullBlocks 16 (Hex.encode octets).toList).map String.ofList := by
        rw [← fullBlocks_flatMap (by decide) pairs, Hex.encode, String.toList_ofList]

end Neighbors

end Announce
