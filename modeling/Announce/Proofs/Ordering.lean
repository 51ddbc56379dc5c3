import Announce.Proofs.HexText
import Announce.Proofs.Normal
import Mathlib.Data.List.Sort
import Mathlib.Data.String.Basic

/-!
# Identifiers in order

Identifiers are compared byte by byte and their texts digit by digit, and both comparisons
decide alike.  So identifiers may be sorted and then written, or written and then sorted as
texts.
-/

namespace Announce

namespace Hex

/-- The digits stand in the order of their values, the letters behind the numerals. -/
theorem digit_lt_digit_iff {left right : Nat} (leftSmall : left < 16) (rightSmall : right < 16) :
    digit left < digit right ↔ left < right := by
  have all : ∀ left < 16, ∀ right < 16, digit left < digit right ↔ left < right := by
    decide +kernel
  exact all left leftSmall right rightSmall

/-- Of two octets the digits decide, and only if they are the same does it matter what
follows. -/
theorem ofByte_append_lt_iff {left right : UInt8} {leftRest rightRest : List Char} :
    ofByte left ++ leftRest < ofByte right ++ rightRest ↔
      left < right ∨ left = right ∧ leftRest < rightRest := by
  have high := digit_lt_digit_iff (high_lt left) (high_lt right)
  have low := digit_lt_digit_iff (low_lt left) (low_lt right)
  have sameHigh := digit_inj (high_lt left) (high_lt right)
  have sameLow := digit_inj (low_lt left) (low_lt right)
  simp only [ofByte, List.cons_append, List.nil_append, List.cons_lt_cons_iff, high, low,
    sameHigh, sameLow, UInt8.lt_iff_toNat_lt, ← UInt8.toNat_inj]
  by_cases rest : leftRest < rightRest
  · simp only [rest, and_true]
    omega
  · simp only [rest, and_false, or_false]
    omega

/-- Strings of octets are ordered as their digits are. -/
theorem encode_lt_encode_iff {left right : Bytes} : encode left < encode right ↔ left < right := by
  rw [String.lt_iff_toList_lt, encode, encode, String.toList_ofList, String.toList_ofList]
  induction left generalizing right with
  | nil =>
      cases right with
      | nil => simp
      | cons octet right => simp [ofByte]
  | cons octet left ih =>
      cases right with
      | nil => simp
      | cons octet' right =>
          rw [List.flatMap_cons, List.flatMap_cons, ofByte_append_lt_iff, ih,
            List.cons_lt_cons_iff]

end Hex

namespace PeerId

theorem toHex_lt_toHex_iff {left right : PeerId} : left.toHex < right.toHex ↔ left < right :=
  Hex.encode_lt_encode_iff

theorem toHex_le_toHex_iff {left right : PeerId} : left.toHex ≤ right.toHex ↔ left ≤ right :=
  not_congr toHex_lt_toHex_iff

/-- The texts of sorted identifiers are sorted texts. -/
theorem map_toHex_sort (ids : List PeerId) :
    (sort ids).map toHex = (ids.map toHex).mergeSort fun left right => left ≤ right := by
  apply List.map_mergeSort
  intro left _ right _
  rw [decide_eq_decide, toHex_le_toHex_iff]

/-- The order of identifiers is that of their texts.  Whatever texts identifiers are made
of, sorting them and then writing them gives the one list that has the same texts as
writing them alone and has them in order, and there are as many different identifiers as
different texts of them. -/
theorem order_agrees_with_texts :
    (∀ left right : PeerId,
      (left < right ↔ left.toHex < right.toHex) ∧ (left = right ↔ left.toHex = right.toHex)) ∧
    ∀ texts : List String,
      let ids := texts.map ofText
      (∀ sorted : List String, (sort ids).map toHex = sorted ↔
        sorted.Perm (ids.map toHex) ∧ sorted.Pairwise fun left right => left ≤ right) ∧
      ids.eraseDups.length = (ids.map toHex).eraseDups.length := by
  refine ⟨?_, ?_⟩
  · intro left right
    exact ⟨toHex_lt_toHex_iff.symm, toHex_injective.eq_iff.symm⟩
  · intro texts ids
    constructor
    · intro sorted
      rw [map_toHex_sort]
      have arranged := List.mergeSort_perm (ids.map toHex) fun left right => left ≤ right
      have ascending := List.pairwise_mergeSort' (fun left right => left ≤ right) (ids.map toHex)
      constructor
      · rintro rfl
        exact ⟨arranged, ascending⟩
      · rintro ⟨same, ordered⟩
        exact (arranged.trans same.symm).eq_of_pairwise' ascending ordered
    · rw [eraseDups_map toHex_injective, List.length_map]

end PeerId

end Announce
