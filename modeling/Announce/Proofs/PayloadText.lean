import Announce.Proofs.Canonical
import Announce.Proofs.Spelling

/-!
# Payloads given as text

Of a text the characters count that are left when blanks are dropped and then one marker.
They are read if they are an even number of digits.  Otherwise the text is refused: for an
odd number of UTF-8 octets, whatever they are, and else for the first octet that is not a
digit.
-/

namespace Announce

/-- A text has as many octets as its UTF-8 size says. -/
theorem Bytes.length_ofText (text : String) : (ofText text).length = text.utf8ByteSize := by
  rw [← String.size_toByteArray, ← String.utf8Encode_toList, List.utf8Encode,
    List.size_toByteArray]
  rfl

namespace Hex

/-! ## Octets and digits -/

/-- An octet of a text that is an ASCII digit by itself. -/
def IsDigitOctet (octet : UInt8) : Prop :=
  IsDigit (Char.ofNat octet.toNat)

instance : DecidablePred IsDigitOctet := fun _ => inferInstanceAs (Decidable (IsDigit _))

theorem digitValue?_eq_none_iff {octet : UInt8} :
    digitValue? octet = none ↔ ¬IsDigitOctet octet := by
  have all : ∀ code < 256, digitValue? (UInt8.ofNat code) = none ↔
      ¬IsDigit (Char.ofNat code) := by decide +kernel
  have known := all octet.toNat octet.toNat_lt
  rwa [UInt8.ofNat_toNat] at known

theorem isDigitOctet_of_digitValue? {octet : UInt8} {value : Nat}
    (read : digitValue? octet = some value) : IsDigitOctet octet := by
  by_contra other
  rw [digitValue?_eq_none_iff.mpr other] at read
  cases read

/-- The first octet in a run of octets that is not a digit. -/
structure FirstStray (octets : Bytes) (octet : UInt8) (position : Nat) : Prop where
  present : octets[position]? = some octet
  stray : ¬IsDigitOctet octet
  digits : ∀ earlier ∈ octets.take position, IsDigitOctet earlier

theorem FirstStray.behind_pair {octets : Bytes} {octet high low : UInt8} {position : Nat}
    (first : FirstStray octets octet position) (highDigit : IsDigitOctet high)
    (lowDigit : IsDigitOctet low) : FirstStray (high :: low :: octets) octet (position + 2) where
  present := first.present
  stray := first.stray
  digits := by
    intro earlier member
    rw [List.take_succ_cons, List.take_succ_cons, List.mem_cons, List.mem_cons] at member
    rcases member with rfl | rfl | behind
    · exact highDigit
    · exact lowDigit
    · exact first.digits earlier behind

theorem FirstStray.position_le {octets : Bytes} {octet octet' : UInt8}
    {position position' : Nat} (first : FirstStray octets octet position)
    (first' : FirstStray octets octet' position') : position ≤ position' := by
  by_contra later
  have present : (octets.take position)[position']? = some octet' := by
    rw [List.getElem?_take_of_lt (Nat.lt_of_not_le later)]
    exact first'.present
  exact first'.stray (first.digits octet' (List.mem_of_getElem? present))

/-- There is only one first octet that is not a digit. -/
theorem FirstStray.unique {octets : Bytes} {octet octet' : UInt8} {position position' : Nat}
    (first : FirstStray octets octet position) (first' : FirstStray octets octet' position') :
    octet = octet' ∧ position = position' := by
  have same : position = position' :=
    Nat.le_antisymm (first.position_le first') (first'.position_le first)
  refine ⟨?_, same⟩
  have present := first.present
  rw [same, first'.present, Option.some.injEq] at present
  exact present.symm

/-- An even number of octets is refused for the first one that is not a digit. -/
theorem firstStray_of_decodePairs {start : Nat} {octets : Bytes} {cause : Error}
    (refused : decodePairs start octets = .error cause) (even : 2 ∣ octets.length) :
    ∃ octet position, FirstStray octets octet position ∧
      cause = .notDigit octet (start + position) := by
  fun_induction decodePairs start octets with
  | case1 start => cases refused
  | case2 start single => simp at even
  | case3 start high low rest highValue lowValue lowRead highRead ih =>
      -- Both octets of the pair are digits, so the first stray one is behind them.
      cases read : decodePairs (start + 2) rest with
      | ok octets =>
          rw [read] at refused
          cases refused
      | error later =>
          rw [read] at refused
          cases refused
          have evenRest : 2 ∣ rest.length := (Nat.dvd_add_left (Nat.dvd_refl 2)).mp even
          obtain ⟨octet, position, first, rfl⟩ := ih read evenRest
          refine ⟨octet, position + 2, ?_, ?_⟩
          · exact first.behind_pair (isDigitOctet_of_digitValue? highRead)
              (isDigitOctet_of_digitValue? lowRead)
          · rw [Nat.add_assoc, Nat.add_comm 2]
  | case4 start high low rest highRead =>
      cases refused
      exact ⟨high, 0, ⟨rfl, digitValue?_eq_none_iff.mp highRead, by simp⟩, rfl⟩
  | case5 start high low rest highValue lowRead highRead =>
      cases refused
      refine ⟨low, 1, ⟨rfl, digitValue?_eq_none_iff.mp lowRead, ?_⟩, rfl⟩
      simpa using isDigitOctet_of_digitValue? highRead

/-! ## Texts -/

/-- Why a text is refused: for the number of its octets, whatever they are, or else for the
first of them that is not a digit. -/
inductive Refusal (text : String) : Error → Prop where
  | oddLength : text.utf8ByteSize % 2 = 1 → Refusal text .oddLength
  | notDigit {octet : UInt8} {position : Nat} : text.utf8ByteSize % 2 = 0 →
      FirstStray (Bytes.ofText text) octet position → Refusal text (.notDigit octet position)

theorem refusal_of_decode {text : String} {cause : Error} (refused : decode text = .error cause) :
    Refusal text cause := by
  have size := Bytes.length_ofText text
  rw [decode] at refused
  split at refused
  · next odd =>
      cases refused
      exact .oddLength (size ▸ odd)
  · next notOdd =>
      have even : (Bytes.ofText text).length % 2 = 0 := Nat.mod_two_ne_one.mp notOdd
      obtain ⟨octet, position, first, rfl⟩ :=
        firstStray_of_decodePairs refused (Nat.dvd_of_mod_eq_zero even)
      rw [Nat.zero_add]
      exact .notDigit (size ▸ even) first

theorem decode_of_odd {text : String} (odd : text.utf8ByteSize % 2 = 1) :
    decode text = .error .oddLength := by
  rw [← Bytes.length_ofText] at odd
  exact if_pos odd

theorem exists_refusal_of_not_isText {text : String} (other : ¬IsText text) :
    ∃ cause, decode text = .error cause ∧ Refusal text cause := by
  cases read : decode text with
  | ok octets => exact absurd (exists_decode_iff.mp ⟨octets, read⟩) other
  | error cause => exact ⟨cause, rfl, refusal_of_decode read⟩

end Hex

/-! ## Markers -/

/-- What stands behind the marker of some characters: all of them if there is none. -/
inductive BehindMarker : List Char → List Char → Prop where
  | lower (digits : List Char) : BehindMarker ('0' :: 'x' :: digits) digits
  | upper (digits : List Char) : BehindMarker ('0' :: 'X' :: digits) digits
  | unmarked {characters : List Char} : ¬['0', 'x'] <+: characters → ¬['0', 'X'] <+: characters →
      BehindMarker characters characters

theorem behindMarker_withoutMarker (characters : List Char) :
    BehindMarker characters (withoutMarker characters) := by
  unfold withoutMarker
  split
  · exact .lower _
  · exact .upper _
  · next notLower notUpper =>
      apply BehindMarker.unmarked
      · rintro ⟨digits, rfl⟩
        exact notLower digits rfl
      · rintro ⟨digits, rfl⟩
        exact notUpper digits rfl

/-! ## Messages -/

namespace Failure

theorem ofHexError_oddLength :
    ofHexError "--hex is not valid hex" .oddLength =
      ⟨60, "--hex is not valid hex: Odd number of digits"⟩ := by
  decide

theorem ofHexError_notDigit (octet : UInt8) (position : Nat) :
    ofHexError "--hex is not valid hex" (.notDigit octet position) =
      ⟨60, "--hex is not valid hex: Invalid character " ++
        Text.quoteChar (Char.ofNat octet.toNat) ++ " at position " ++ toString position⟩ := by
  have front : "--hex is not valid hex" ++ ": " ++ "Invalid character " =
      "--hex is not valid hex: Invalid character " := by decide
  rw [ofHexError, inContext, ← front]
  simp only [String.append_assoc]
  rfl

theorem ofHexError_notDigit_ne (octet : UInt8) (position : Nat) :
    ofHexError "--hex is not valid hex" (.notDigit octet position) ≠
      ofHexError "--hex is not valid hex" .oddLength := by
  rw [ofHexError_notDigit, ofHexError_oddLength]
  intro same
  have messages := congrArg (fun failure => failure.message.toList[24]?) same
  simp [String.append_assoc] at messages

end Failure

/-! ## Payloads -/

/-- A payload given as text is read from what is left without blanks and one marker.  This
has to be an even number of digits, two for each byte and the high half first.  A text that
is not is refused as bad data: because of the number of its octets if that is odd, and else
because of the first octet that is not a digit.  All spellings of a payload are read. -/
theorem PayloadOptions.load_reads_digit_pairs (host : Host) (file : Option String) (text : String) :
    let digits := payloadDigits text
    let loaded := load host ⟨some text, file⟩
    BehindMarker (text.toList.filter fun character => !Text.isBlank character) digits.toList ∧
    ((∃ payload, loaded = .ok payload) ↔ Hex.IsText digits) ∧
    (∀ payload, loaded = .ok payload ↔
      digits.toList.map Hex.charValue? = (Hex.halves payload).map some) ∧
    (loaded = .error ⟨60, "--hex is not valid hex: Odd number of digits"⟩ ↔
      digits.utf8ByteSize % 2 = 1) ∧
    (¬Hex.IsText digits → digits.utf8ByteSize % 2 = 0 →
      ∃ octet position, Hex.FirstStray (Bytes.ofText digits) octet position ∧
        loaded = .error ⟨60, "--hex is not valid hex: Invalid character " ++
          Text.quoteChar (Char.ofNat octet.toNat) ++ " at position " ++ toString position⟩) ∧
    ∀ payload, Spells text payload → loaded = .ok payload := by
  intro digits loaded
  refine ⟨?_, exists_readPayloadText_iff, ?_, ?_, ?_, ?_⟩
  · have behind := behindMarker_withoutMarker
      (text.toList.filter fun character => !Text.isBlank character)
    rwa [← String.toList_ofList (l := withoutMarker _), ← payloadDigits] at behind
  · intro payload
    exact readPayloadText_eq_ok_iff_decode.trans Hex.decode_eq_ok_iff_values
  · rw [← Failure.ofHexError_oddLength]
    constructor
    · intro refused
      obtain ⟨cause, read, same⟩ := readPayloadText_eq_error_iff.mp refused
      cases Hex.refusal_of_decode read with
      | oddLength odd => exact odd
      | @notDigit octet position even first =>
          exact absurd same (Failure.ofHexError_notDigit_ne octet position)
    · intro odd
      exact readPayloadText_eq_error_iff.mpr ⟨_, Hex.decode_of_odd odd, rfl⟩
  · intro other even
    obtain ⟨cause, read, refusal⟩ := Hex.exists_refusal_of_not_isText other
    have refused := readPayloadText_eq_error_iff.mpr ⟨cause, read, rfl⟩
    cases refusal with
    | oddLength odd =>
        rw [even] at odd
        cases odd
    | @notDigit octet position _ first =>
        rw [Failure.ofHexError_notDigit] at refused
        exact ⟨octet, position, first, refused⟩
  · intro payload spells
    exact readPayloadText_eq_ok_iff.mpr spells

/-- A marker with a blank in it is dropped and a second one is not.  A letter of two octets
makes their number odd, and that is what is reported. -/
theorem PayloadOptions.load_reads_digit_pairs_two_markers :
    let host : Host := ⟨"x86_64-linux", fun _ => .error .notFound⟩
    (Spells "0 X0\u00a04a\tB" [0x04, 0xAB] ∧
      load host ⟨some "0 X0\u00a04a\tB", none⟩ = .ok [0x04, 0xAB]) ∧
    ((payloadDigits "0x 0x12" = "0x12" ∧ ¬Hex.IsText "0x12" ∧ "0x12".utf8ByteSize % 2 = 0) ∧
      load host ⟨some "0x 0x12", none⟩ =
        .error ⟨60, "--hex is not valid hex: Invalid character 'x' at position 1"⟩) ∧
    ((payloadDigits "z\u00e9" = "z\u00e9" ∧ "z\u00e9".utf8ByteSize % 2 = 1) ∧
      load host ⟨some "z\u00e9", none⟩ =
        .error ⟨60, "--hex is not valid hex: Odd number of digits"⟩) := by
  intro host
  have spells : Spells "0 X0\u00a04a\tB" [0x04, 0xAB] :=
    ⟨['0', 'X'], ['0', '4', 'a', 'B'], by simp, by decide +kernel, by decide +kernel⟩
  have marked : payloadDigits "0x 0x12" = "0x12" := by decide +kernel
  have unmarked : payloadDigits "z\u00e9" = "z\u00e9" := by decide +kernel
  have notText : ¬Hex.IsText "0x12" := by decide
  obtain ⟨-, -, -, -, -, spelled⟩ := load_reads_digit_pairs host none "0 X0\u00a04a\tB"
  obtain ⟨-, -, -, -, stray, -⟩ := load_reads_digit_pairs host none "0x 0x12"
  obtain ⟨-, -, -, odd, -, -⟩ := load_reads_digit_pairs host none "z\u00e9"
  rw [marked] at stray
  rw [unmarked] at odd
  obtain ⟨octet, position, first, refused⟩ := stray notText (by decide)
  have marker : Hex.FirstStray (Bytes.ofText "0x12") 0x78 1 :=
    ⟨by decide +kernel, by decide +kernel, by decide +kernel⟩
  obtain ⟨rfl, rfl⟩ := first.unique marker
  have message : "--hex is not valid hex: Invalid character " ++
      Text.quoteChar (Char.ofNat (0x78 : UInt8).toNat) ++ " at position " ++ toString 1 =
      "--hex is not valid hex: Invalid character 'x' at position 1" := by decide +kernel
  rw [message] at refused
  exact ⟨⟨spells, spelled _ spells⟩, ⟨⟨marked, notText, by decide⟩, refused⟩,
    ⟨unmarked, by decide⟩, odd.mpr (by decide)⟩

end Announce
