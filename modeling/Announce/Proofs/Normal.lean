import Announce.Proofs.Digits
import Announce.Proofs.NeighborList
import Mathlib.Data.List.Nodup

/-!
# Normal neighbor records

Writing the neighbors that were read from a payload gives its normal form: one
record with whole identifiers, each of them once.  Reading and writing that record
changes nothing.
-/

namespace Announce

/-! ## First occurrences -/

section

variable {α : Type} [BEq α]

theorem eraseDups_sublist (items : List α) : items.eraseDups.Sublist items := by
  cases items with
  | nil => exact List.Sublist.refl []
  | cons item items =>
      rw [List.eraseDups_cons]
      exact ((eraseDups_sublist _).trans List.filter_sublist).cons_cons item
termination_by items.length
decreasing_by exact Nat.lt_succ_of_le (List.length_filter_le _ _)

variable [LawfulBEq α]

theorem nodup_eraseDups (items : List α) : items.eraseDups.Nodup := by
  cases items with
  | nil => exact List.nodup_nil
  | cons item items =>
      rw [List.eraseDups_cons, List.nodup_cons]
      constructor
      · simp [List.mem_eraseDups]
      · exact nodup_eraseDups _
termination_by items.length
decreasing_by exact Nat.lt_succ_of_le (List.length_filter_le _ _)

theorem eraseDups_of_nodup {items : List α} (different : items.Nodup) :
    items.eraseDups = items := by
  induction items with
  | nil => rfl
  | cons item items ih =>
      rcases List.nodup_cons.mp different with ⟨fresh, later⟩
      have kept : items.filter (fun other => !other == item) = items := by
        apply List.filter_eq_self.mpr
        intro other member
        simp only [Bool.not_eq_true', beq_eq_false_iff_ne]
        rintro rfl
        exact fresh member
      rw [List.eraseDups_cons, kept, ih later]

theorem eraseDups_map {β : Type} [BEq β] [LawfulBEq β] {f : α → β} (injective : f.Injective)
    (items : List α) : (items.map f).eraseDups = items.eraseDups.map f := by
  cases items with
  | nil => rfl
  | cons item items =>
      have others : (fun other => !other == f item) ∘ f = fun other => !other == item := by
        funext other
        rw [Function.comp_apply, Bool.eq_iff_iff]
        simp [injective.eq_iff]
      rw [List.map_cons, List.eraseDups_cons, List.eraseDups_cons, List.filter_map, others,
        eraseDups_map injective, List.map_cons]
termination_by items.length
decreasing_by exact Nat.lt_succ_of_le (List.length_filter_le _ _)

end

namespace Neighbors

/-! ## Records of given identifiers -/

theorem length_flatMap_bytes_le {ids : List PeerId} (few : ids.length ≤ 31) :
    (ids.flatMap PeerId.bytes).length ≤ Record.maxValueSize := by
  rw [length_flatMap_bytes, Record.maxValueSize]
  omega

/-- The neighbor record of a list of identifiers. -/
def entryOf (ids : List PeerId) (few : ids.length ≤ 31) : Entry where
  tag := Tag.directNeighbors
  value := ids.flatMap PeerId.bytes
  fits := length_flatMap_bytes_le few

theorem wire_entryOf (ids : List PeerId) (few : ids.length ≤ 31) :
    (entryOf ids few).wire =
      0x04 :: UInt8.ofNat (ids.flatMap PeerId.bytes).length :: ids.flatMap PeerId.bytes := rfl

theorem decode_entryOf (ids : List PeerId) (few : ids.length ≤ 31) :
    (decode (entryOf ids few).wire).value = some ids := by
  have decoded := decode_wireAll [entryOf ids few]
  rw [wireAll_cons, wireAll_nil, List.append_nil] at decoded
  rw [decoded]
  exact congrArg some (blocks_flatMap_bytes ids)

theorem value_map_toHex (ids : List PeerId) :
    value (ids.map PeerId.toHex) = ids.flatMap PeerId.bytes := by
  simp only [value, List.flatMap_map, PeerId.ofText_toHex]

/-- Texts of which the different ones are those of some identifiers are written as
the record of these identifiers. -/
theorem encode_of_eraseDups_eq {texts : List String} {ids : List PeerId} {limit : UInt64}
    (few : ids.length ≤ 31) (wide : 31 ≤ limit.toNat)
    (different : texts.eraseDups = ids.map PeerId.toHex) :
    (encode texts limit).value = .ok (entryOf ids few).wire := by
  have all : (ids.map PeerId.toHex).length ≤ limit.toNat := by
    rw [List.length_map]
    exact Nat.le_trans few wide
  rw [value_encode, retained_eq, different, List.take_of_length_le all, value_map_toHex]
  exact (entryOf ids few).encode_eq

/-! ## The normal form -/

/-- A payload that is one neighbor record of whole and different identifiers, with
nothing behind it. -/
def IsNormal (payload : Bytes) : Prop :=
  ∃ (length : UInt8) (value : Bytes), payload = 0x04 :: length :: value ∧
    value.length = length.toNat ∧ 8 ∣ value.length ∧ (fullBlocks 8 value).Nodup

theorem isNormal_iff {payload : Bytes} :
    IsNormal payload ↔
      ∃ ids few, ids.Nodup ∧ payload = (entryOf ids few).wire := by
  constructor
  · rintro ⟨length, value, rfl, declared, whole, different⟩
    have few : (blocks value).length ≤ 31 := by
      have := length.toNat_lt
      rw [length_blocks, declared]
      omega
    refine ⟨blocks value, few, ?_, ?_⟩
    · rw [← bytes_blocks] at different
      exact different.of_map
    · rw [wire_entryOf, flatMap_bytes_blocks whole, declared, UInt8.ofNat_toNat]
  · rintro ⟨ids, few, different, rfl⟩
    have length := length_flatMap_bytes ids
    refine ⟨_, _, rfl, (entryOf ids few).toNat_length.symm, ?_, ?_⟩
    · exact length ▸ Nat.dvd_mul_right 8 ids.length
    · change (fullBlocks 8 (ids.flatMap PeerId.bytes)).Nodup
      rw [← bytes_blocks, blocks_flatMap_bytes]
      exact different.map PeerId.bytes_injective

/-- Write the neighbors that are read from a payload. -/
def normalize (limit : UInt64) (payload : Bytes) : Option Bytes := do
  let texts ← (decodeTexts payload).value
  (encode texts limit).value.toOption

theorem length_le_of_findValue {payload value : Bytes} {tag : UInt8}
    (found : (findValue payload tag).value = some value) : value.length ≤ 255 := by
  rcases Layout.exists_toBytes_eq payload with ⟨layout, rfl⟩
  rw [findValue_toBytes, Option.map_eq_some_iff] at found
  rcases found with ⟨entry, -, rfl⟩
  exact entry.fits

theorem exists_ids_of_decodeTexts {payload : Bytes} {texts : List String}
    (found : (decodeTexts payload).value = some texts) :
    ∃ ids : List PeerId, (decode payload).value = some ids ∧ texts = ids.map PeerId.toHex ∧
      ids.length ≤ 31 := by
  rw [value_decodeTexts, Option.map_eq_some_iff] at found
  rcases found with ⟨ids, decoded, rfl⟩
  refine ⟨ids, decoded, rfl, ?_⟩
  rw [value_decode, Option.map_eq_some_iff] at decoded
  rcases decoded with ⟨value, found, rfl⟩
  have := length_le_of_findValue found
  rw [length_blocks]
  omega

/-- The different texts among those of identifiers are the texts of different
identifiers. -/
theorem exists_nodup_of_eraseDups (ids : List PeerId) :
    ∃ kept : List PeerId, kept.Nodup ∧ kept.length ≤ ids.length ∧
      (ids.map PeerId.toHex).eraseDups = kept.map PeerId.toHex := by
  rcases List.sublist_map_iff.mp (eraseDups_sublist (ids.map PeerId.toHex)) with
    ⟨kept, sublist, different⟩
  have nodup := nodup_eraseDups (ids.map PeerId.toHex)
  rw [different] at nodup
  exact ⟨kept, nodup.of_map, sublist.length_le, different⟩

/-- The neighbors that are read from a payload can always be written again, and
the record reads as them without repeats.  It is its own normal form, and it is
the payload itself exactly if that was in normal form. -/
theorem normalize_of_decodeTexts {payload : Bytes} {texts : List String} {limit : UInt64}
    (found : (decodeTexts payload).value = some texts) (wide : 31 ≤ limit.toNat) :
    texts.length ≤ 31 ∧
    ∃ record, (encode texts limit).value = .ok record ∧
      normalize limit payload = some record ∧
      (decodeTexts record).value = some texts.eraseDups ∧
      normalize limit record = some record ∧
      (record = payload ↔ IsNormal payload) := by
  rcases exists_ids_of_decodeTexts found with ⟨ids, decoded, rfl, few⟩
  rcases exists_nodup_of_eraseDups ids with ⟨kept, keptNodup, shorter, different⟩
  have keptFew : kept.length ≤ 31 := Nat.le_trans shorter few
  have encoded := encode_of_eraseDups_eq keptFew wide different
  have again : (decodeTexts (entryOf kept keptFew).wire).value =
      some (ids.map PeerId.toHex).eraseDups := by
    rw [value_decodeTexts, decode_entryOf, different]
    rfl
  refine ⟨by rwa [List.length_map], (entryOf kept keptFew).wire, encoded, ?_, again, ?_, ?_⟩
  · rw [normalize, value_decodeTexts, decoded]
    exact congrArg Except.toOption encoded
  · rw [normalize, again]
    have unchanged := eraseDups_of_nodup (nodup_eraseDups (ids.map PeerId.toHex))
    rw [different] at unchanged
    exact congrArg Except.toOption (encode_of_eraseDups_eq keptFew wide (different ▸ unchanged))
  · rw [isNormal_iff]
    constructor
    · intro same
      exact ⟨kept, keptFew, keptNodup, same.symm⟩
    · rintro ⟨others, othersFew, othersNodup, rfl⟩
      rw [decode_entryOf, Option.some.injEq] at decoded
      subst decoded
      rw [eraseDups_of_nodup (othersNodup.map PeerId.toHex_injective)] at different
      have same := PeerId.toHex_injective.list_map different
      subst same
      rfl

/-- A repeated neighbor, a fragment and a lone tag behind the record are not in the
normal form. -/
theorem normalize_of_decodeTexts_repeated :
    let octets : Bytes := [0xAB, 0, 0, 0, 0, 0, 0, 1, 0xAB, 0, 0, 0, 0, 0, 0, 1, 9]
    let text := "ab00000000000001"
    ((decodeTexts ([4, 17] ++ octets ++ [4])).value = some [text, text] ∧
      31 ≤ (31 : UInt64).toNat) ∧
    ∃ record, normalize 31 ([4, 17] ++ octets ++ [4]) = some record ∧
      (decodeTexts record).value = some [text] ∧ normalize 31 record = some record := by
  intro octets text
  have decoded : (decode ([4, 17] ++ octets ++ [4])).value = some (blocks octets) :=
    decode_toBytes ⟨[⟨4, octets, by decide⟩], [4], .inr (.shortHeader 4)⟩
  have found : (decodeTexts ([4, 17] ++ octets ++ [4])).value = some [text, text] := by
    rw [value_decodeTexts, decoded, Option.map_some, toHex_blocks]
    decide +kernel
  rcases normalize_of_decodeTexts found (by decide : 31 ≤ (31 : UInt64).toNat) with
    ⟨-, record, -, normal, reads, again, -⟩
  have different : [text, text].eraseDups = [text] := by decide
  rw [different] at reads
  exact ⟨⟨found, by decide⟩, record, normal, reads, again⟩

end Neighbors

end Announce
