import Announce.Proofs.Blocks

/-!
# Digits read back

The digits of a string of octets are read as these octets.  Lowercasing leaves
digits as they are, so the tolerant reading of the text of an identifier gives
the identifier back, and no two identifiers have the same text.
-/

namespace Announce

namespace Hex

/-- A digit is one octet in UTF-8, and that octet has the value of the digit. -/
theorem digitValue?_digit {value : Nat} (small : value < 16) :
    ∃ octet, String.utf8EncodeChar (digit value) = [octet] ∧ digitValue? octet = some value := by
  have all : ∀ value < 16,
      String.utf8EncodeChar (digit value) = [UInt8.ofNat (digit value).toNat] ∧
        digitValue? (UInt8.ofNat (digit value).toNat) = some value := by decide +kernel
  exact ⟨_, all value small⟩

theorem high_lt (octet : UInt8) : octet.toNat / 16 < 16 :=
  Nat.div_lt_of_lt_mul octet.toNat_lt

theorem low_lt (octet : UInt8) : octet.toNat % 16 < 16 :=
  Nat.mod_lt _ (by decide)

theorem join_halves (octet : UInt8) : join (octet.toNat / 16) (octet.toNat % 16) = octet := by
  rw [join, Nat.div_add_mod, UInt8.ofNat_toNat]

theorem length_ofByte (octet : UInt8) : (ofByte octet).length = 2 := rfl

/-- The digits of an octet are two octets in UTF-8, which have the values of its
halves. -/
theorem exists_utf8_ofByte (octet : UInt8) :
    ∃ high low, (ofByte octet).flatMap String.utf8EncodeChar = [high, low] ∧
      digitValue? high = some (octet.toNat / 16) ∧
      digitValue? low = some (octet.toNat % 16) := by
  rcases digitValue?_digit (high_lt octet) with ⟨high, highWritten, highValue⟩
  rcases digitValue?_digit (low_lt octet) with ⟨low, lowWritten, lowValue⟩
  exact ⟨high, low, by simp [ofByte, highWritten, lowWritten], highValue, lowValue⟩

theorem ofText_encode (octets : Bytes) :
    Bytes.ofText (encode octets) =
      octets.flatMap fun octet => (ofByte octet).flatMap String.utf8EncodeChar := by
  rw [Bytes.ofText, encode, String.toList_ofList, List.flatMap_assoc]

theorem length_ofText_encode (octets : Bytes) :
    (Bytes.ofText (encode octets)).length = 2 * octets.length := by
  rw [ofText_encode]
  apply length_flatMap_of_width
  intro octet
  rcases exists_utf8_ofByte octet with ⟨high, low, written, -, -⟩
  rw [written]
  rfl

theorem decodePairs_ofText_encode (position : Nat) (octets : Bytes) :
    decodePairs position (Bytes.ofText (encode octets)) = .ok octets := by
  rw [ofText_encode]
  induction octets generalizing position with
  | nil => rfl
  | cons octet octets ih =>
      rcases exists_utf8_ofByte octet with ⟨high, low, written, highValue, lowValue⟩
      simp only [List.flatMap_cons, written, List.cons_append, List.nil_append, decodePairs,
        highValue, lowValue, join_halves, ih]
      rfl

/-- The digits of a string of octets are read as these octets. -/
theorem decode_encode (octets : Bytes) : decode (encode octets) = .ok octets := by
  have even : (Bytes.ofText (encode octets)).length % 2 ≠ 1 := by
    rw [length_ofText_encode]
    omega
  rw [decode, if_neg even, decodePairs_ofText_encode]

theorem encode_injective : Function.Injective encode := by
  intro octets octets' same
  have read := decode_encode octets
  rw [same, decode_encode] at read
  exact (Except.ok.inj read).symm

end Hex

namespace Text

/-- A digit is its own lowercase form, whatever stands around it. -/
theorem lowerChar_digit {value : Nat} (small : value < 16) (before after : List Char) :
    lowerChar before (Hex.digit value) after = [Hex.digit value] := by
  have all : ∀ value < 16,
      Hex.digit value ≠ '\u0130' ∧ Hex.digit value ≠ '\u03A3' ∧
        Char.ofNat (lowerCode (Hex.digit value).toNat) = Hex.digit value := by decide +kernel
  rcases all value small with ⟨dotted, sigma, same⟩
  rw [lowerChar, if_neg dotted, if_neg sigma, same]

theorem lowerAfter_digits (before : List Char) (octets : Bytes) :
    lowerAfter before (octets.flatMap Hex.ofByte) = octets.flatMap Hex.ofByte := by
  induction octets generalizing before with
  | nil => rfl
  | cons octet octets ih =>
      simp only [List.flatMap_cons, Hex.ofByte, List.cons_append, List.nil_append, lowerAfter,
        lowerChar_digit (Hex.high_lt octet), lowerChar_digit (Hex.low_lt octet), ih]

/-- The digits of a string of octets are in lowercase. -/
theorem lowercase_digits (octets : Bytes) :
    lowercase (octets.flatMap Hex.ofByte) = octets.flatMap Hex.ofByte :=
  lowerAfter_digits [] octets

end Text

namespace PeerId

theorem pairBytes_digits (octets : Bytes) :
    pairBytes (octets.flatMap Hex.ofByte) = octets := by
  induction octets with
  | nil => rfl
  | cons octet octets ih =>
      have read : pairByte (Hex.digit (octet.toNat / 16)) (Hex.digit (octet.toNat % 16)) = octet := by
        have decoded := Hex.decode_encode [octet]
        rw [Hex.encode, List.flatMap_singleton, Hex.ofByte] at decoded
        rw [pairByte, decoded]
      simp only [List.flatMap_cons, Hex.ofByte, List.cons_append, List.nil_append, pairBytes,
        read]
      exact congrArg (octet :: ·) ih

theorem ofPadded_bytes (id : PeerId) : ofPadded id.bytes = id := by
  apply PeerId.ext
  have full : id.bytes.take 8 = id.bytes := List.take_of_length_le (Nat.le_of_eq id.length_bytes)
  simp [ofPadded, full, List.rightpad, id.length_bytes]

/-- The tolerant reading of the text of an identifier gives the identifier back. -/
theorem ofText_toHex (id : PeerId) : ofText id.toHex = id := by
  have size : (id.bytes.flatMap Hex.ofByte).length ≤ hexSize := by
    rw [length_flatMap_of_width Hex.length_ofByte, id.length_bytes]
    decide
  rw [ofText, toHex, Hex.encode, String.toList_ofList, Text.lowercase_digits,
    List.take_of_length_le size, pairBytes_digits, ofPadded_bytes]

theorem bytes_injective : Function.Injective bytes := fun _ _ => PeerId.ext

theorem toHex_injective : Function.Injective toHex :=
  Function.LeftInverse.injective ofText_toHex

end PeerId

end Announce
