import Announce.Proofs.NeighborList
import Mathlib.Data.List.Infix

/-!
# Longer lists and wider limits

Texts that are added behind a list, and a limit that lets more of them through, leave what
is kept of the list as it is and can only add to it.  The same holds of the value that is
written.  A text that has occurred before adds nothing at all, wherever it stands, and
neither does any text once the limit is reached.
-/

namespace Announce.Neighbors

/-! ## First occurrences -/

theorem eraseDups_prefix_append (ids more : List String) :
    ids.eraseDups <+: (ids ++ more).eraseDups := by
  rw [List.eraseDups_append]
  exact List.prefix_append _ _

/-- A text that has occurred before is no first occurrence. -/
theorem eraseDups_insert {front : List String} {id : String} (known : id ∈ front)
    (back : List String) : (front ++ id :: back).eraseDups = (front ++ back).eraseDups := by
  have dropped : (id :: back).removeAll front = back.removeAll front := by
    unfold List.removeAll
    exact List.filter_cons_of_neg (by simpa using known)
  rw [List.eraseDups_append, List.eraseDups_append, dropped]

/-! ## The texts that are kept -/

section

variable {limit limit' : UInt64} {ids : List String}

theorem retained_prefix (wider : limit ≤ limit') (ids more : List String) :
    retained ids limit <+: retained (ids ++ more) limit' := by
  rw [retained_eq, retained_eq]
  have longer : ids.eraseDups.take limit.toNat <+: (ids ++ more).eraseDups.take limit.toNat :=
    (eraseDups_prefix_append ids more).take limit.toNat
  exact longer.trans (List.take_prefix_take_left (UInt64.le_iff_toNat_le.mp wider))

theorem retained_insert {front : List String} {id : String} (known : id ∈ front)
    (back : List String) (limit : UInt64) :
    retained (front ++ id :: back) limit = retained (front ++ back) limit := by
  rw [retained_eq, retained_eq, eraseDups_insert known]

/-- Nothing is added to a list that reaches the limit. -/
theorem retained_append_of_le (full : limit.toNat ≤ ids.eraseDups.length) (more : List String) :
    retained (ids ++ more) limit = retained ids limit := by
  rw [retained_eq, retained_eq, List.eraseDups_append, List.take_append_of_le_length full]

end

/-! ## The records that are written -/

/-- Of a list nothing is written but the texts that are kept. -/
theorem value_encode_congr {ids ids' : List String} {limit limit' : UInt64}
    (same : retained ids limit = retained ids' limit') :
    (encode ids limit).value = (encode ids' limit').value := by
  rw [value_encode, value_encode, same]

/-- The value of a record begins the value of the record for a longer list and a wider
limit, and a list that cannot be written cannot be written either with more behind it.
A text that is repeated changes neither a record nor a failure, and nor does what is added
to a list that holds as many different texts as the limit lets through. -/
theorem encode_of_longer_list {limit limit' : UInt64} (wider : limit ≤ limit')
    (ids more : List String) :
    (∀ record record', (encode ids limit).value = .ok record →
      (encode (ids ++ more) limit').value = .ok record' →
      record.drop Record.headerSize <+: record'.drop Record.headerSize) ∧
    (∀ oversize, (encode ids limit).value = .error oversize →
      ∃ oversize', (encode (ids ++ more) limit').value = .error oversize' ∧
        oversize.size ≤ oversize'.size) ∧
    (∀ (front back : List String) (id : String), front ++ back = ids → id ∈ front →
      (encode (front ++ id :: back) limit).value = (encode ids limit).value) ∧
    (limit.toNat ≤ ids.eraseDups.length →
      (encode (ids ++ more) limit).value = (encode ids limit).value) := by
  have longer := retained_prefix wider ids more
  refine ⟨?_, ?_, ?_, ?_⟩
  · intro record record' encoded encoded'
    rcases value_encode_eq_ok_iff.mp encoded with ⟨-, rfl⟩
    rcases value_encode_eq_ok_iff.mp encoded' with ⟨-, rfl⟩
    exact longer.flatMap _
  · intro oversize failed
    rcases value_encode_eq_error_iff.mp failed with ⟨many, rfl⟩
    have atLeast := longer.length_le
    exact ⟨_, value_encode_eq_error_iff.mpr ⟨Nat.lt_of_lt_of_le many atLeast, rfl⟩,
      Nat.mul_le_mul_left 8 atLeast⟩
  · rintro front back id rfl known
    exact value_encode_congr (retained_insert known back limit)
  · intro full
    exact value_encode_congr (retained_append_of_le full more)

/-- Behind two texts, one of them given twice, a third one is cut off by the limit that
they reach and is written under a wider one.  Thirty-two texts are too many, and more so
with another one behind them. -/
theorem encode_of_longer_list_third :
    let ids := ["ab", "cd", "ab"]
    let more := ["cd", "ef"]
    let record : Bytes := [4, 16, 0xAB, 0, 0, 0, 0, 0, 0, 0, 0xCD, 0, 0, 0, 0, 0, 0, 0]
    let record' : Bytes := [4, 24] ++ record.drop 2 ++ [0xEF, 0, 0, 0, 0, 0, 0, 0]
    let many := (List.range 32).map fun index => toString index
    ((2 : UInt64) ≤ 10 ∧ (encode ids 2).value = .ok record ∧
      (encode (ids ++ more) 10).value = .ok record' ∧ record.drop 2 <+: record'.drop 2) ∧
    (encode ["ab", "cd", "ab", "ab"] 2).value = .ok record ∧
    (ids.eraseDups.length = 2 ∧ (encode (ids ++ more) 2).value = .ok record) ∧
    ((32 : UInt64) ≤ 40 ∧ (encode many 32).value = .error ⟨256, 255⟩ ∧
      ∃ oversize', (encode (many ++ ["x"]) 40).value = .error oversize' ∧
        256 ≤ oversize'.size) := by
  intro ids more record record' many
  have encoded : (encode ids 2).value = .ok record := rfl
  have encoded' : (encode (ids ++ more) 10).value = .ok record' := rfl
  have full : ids.eraseDups.length = 2 := by decide
  have failed : (encode many 32).value = .error ⟨256, 255⟩ := by
    have kept : (retained many 32).length = 32 := by decide +kernel
    rw [value_encode_eq_error_iff, kept]
    exact ⟨by decide, rfl⟩
  rcases encode_of_longer_list (by decide : (2 : UInt64) ≤ 10) ids more with
    ⟨longer, -, repeated, reached⟩
  rcases encode_of_longer_list (by decide : (32 : UInt64) ≤ 40) many ["x"] with ⟨-, fails, -, -⟩
  refine ⟨⟨by decide, encoded, encoded', longer record record' encoded encoded'⟩, ?_,
    ⟨full, (reached (Nat.le_of_eq full.symm)).trans encoded⟩,
    ⟨by decide, failed, fails _ failed⟩⟩
  exact (repeated ["ab", "cd"] ["ab"] "ab" rfl (by decide)).trans encoded

end Announce.Neighbors
