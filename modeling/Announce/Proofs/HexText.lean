import Announce.Proofs.Digits

/-!
# Texts that are read as octets

Reading looks at the UTF-8 octets of a text, and what it accepts can be said of the
characters: a text is read as octets exactly if its characters, in lowercase, are the
digits of these octets.  An octet of a character that is not a digit never passes for
one.
-/

namespace Announce

namespace Hex

/-- An ASCII digit of hexadecimal text, in either case. -/
def IsDigit (character : Char) : Prop :=
  ('0' ≤ character ∧ character ≤ '9') ∨ ('A' ≤ character ∧ character ≤ 'F') ∨
    ('a' ≤ character ∧ character ≤ 'f')

instance : DecidablePred IsDigit := fun _ => inferInstanceAs (Decidable (_ ∨ _ ∨ _))

/-- An even number of digits. -/
def IsText (text : String) : Prop :=
  2 ∣ text.length ∧ ∀ character ∈ text.toList, IsDigit character

instance : DecidablePred IsText := fun text =>
  @instDecidableAnd _ _ inferInstance (List.decidableBAll IsDigit text.toList)

/-! ## Characters and their octets -/

/-- A property of all ASCII characters is checked code by code. -/
@[elab_as_elim] theorem forall_ascii {motive : Char → Prop}
    (all : ∀ code < 128, motive (Char.ofNat code)) (character : Char)
    (ascii : character.toNat < 128) : motive character := by
  have known := all character.toNat ascii
  rwa [Char.ofNat_toNat] at known

theorem bounds_of_isDigit {character : Char} (isDigit : IsDigit character) :
    48 ≤ character.toNat ∧ character.toNat ≤ 102 := by
  simp only [IsDigit, Char.le_def, UInt32.le_iff_toNat_le] at isDigit
  simp only [Char.toNat, Char.reduceVal, UInt32.reduceToNat] at isDigit ⊢
  omega

theorem toNat_lt_of_isDigit {character : Char} (isDigit : IsDigit character) :
    character.toNat < 128 :=
  Nat.lt_of_le_of_lt (bounds_of_isDigit isDigit).2 (by decide)

/-- A property of all digits is checked code by code. -/
@[elab_as_elim] theorem forall_isDigit {motive : Char → Prop}
    (all : ∀ code < 128, IsDigit (Char.ofNat code) → motive (Char.ofNat code))
    (character : Char) (isDigit : IsDigit character) : motive character :=
  forall_ascii all character (toNat_lt_of_isDigit isDigit) isDigit

/-- A digit is one octet in UTF-8, which has the value of the digit. -/
theorem exists_value_of_isDigit {character : Char} (isDigit : IsDigit character) :
    ∃ value < 16, character.toLower = digit value ∧
      (String.utf8EncodeChar character).map digitValue? = [some value] :=
  forall_isDigit (by decide +kernel) character isDigit

theorem isDigit_of_toLower_eq {character : Char} {value : Nat} (small : value < 16)
    (same : character.toLower = digit value) : IsDigit character := by
  have digits : ∀ value < 16, (digit value).toNat < 128 := by decide +kernel
  have ascii : character.toNat < 128 := by
    unfold Char.toLower at same
    split at same
    · next upper => exact Nat.lt_of_le_of_lt (UInt32.le_iff_toNat_le.mp upper.2) (by decide)
    · exact same ▸ digits value small
  have known : ∀ value < 16, character.toLower = digit value → IsDigit character :=
    forall_ascii (by decide +kernel) character ascii
  exact known value small same

theorem digitValue?_of_le {octet : UInt8} (large : 128 ≤ octet.toNat) :
    digitValue? octet = none := by
  simp only [digitValue?]
  rw [if_neg (by omega), if_neg (by omega), if_neg (by omega)]

/-- The octets of a character outside ASCII are outside ASCII. -/
theorem le_of_mem_utf8EncodeChar {character : Char} (foreign : 128 ≤ character.toNat)
    {octet : UInt8} (member : octet ∈ String.utf8EncodeChar character) :
    128 ≤ octet.toNat := by
  have bound : character.val.toNat < 0x110000 := by
    rcases character.valid with low | ⟨-, high⟩
    · exact Nat.lt_trans low (by decide)
    · exact high
  have notAscii : ¬character.val.toNat ≤ 127 := Nat.not_le.mpr foreign
  have inRange : ∀ value, 128 ≤ value ∧ value < 256 → 128 ≤ (UInt8.ofNat value).toNat := by
    rintro value ⟨low, high⟩
    rw [UInt8.toNat_ofNat', Nat.mod_eq_of_lt high]
    exact low
  -- Two, three or four octets, according to the size of the code point.
  simp only [String.utf8EncodeChar, if_neg notAscii] at member
  split at member
  · simp only [List.mem_cons, List.not_mem_nil, or_false] at member
    rcases member with rfl | rfl <;> apply inRange <;> omega
  · split at member
    · simp only [List.mem_cons, List.not_mem_nil, or_false] at member
      rcases member with rfl | rfl | rfl <;> apply inRange <;> omega
    · simp only [List.mem_cons, List.not_mem_nil, or_false] at member
      rcases member with rfl | rfl | rfl | rfl <;> apply inRange <;> omega

/-- No octet of a character that is not a digit has a value. -/
theorem digitValue?_of_not_isDigit {character : Char} (other : ¬IsDigit character)
    {octet : UInt8} (member : octet ∈ String.utf8EncodeChar character) :
    digitValue? octet = none := by
  by_cases ascii : character.toNat < 128
  · have known : ¬IsDigit character →
        ∀ octet ∈ String.utf8EncodeChar character, digitValue? octet = none :=
      forall_ascii (by decide +kernel) character ascii
    exact known other octet member
  · exact digitValue?_of_le (le_of_mem_utf8EncodeChar (Nat.le_of_not_lt ascii) member)

/-! ## Pairs of digits -/

theorem digitValue?_lt {octet : UInt8} {value : Nat} (read : digitValue? octet = some value) :
    value < 16 := by
  simp only [digitValue?] at read
  split at read
  · cases read
    omega
  · split at read
    · cases read
      omega
    · split at read
      · cases read
        omega
      · cases read

theorem eq_join_iff {octet : UInt8} {high low : Nat} (highSmall : high < 16)
    (lowSmall : low < 16) :
    octet = join high low ↔ octet.toNat / 16 = high ∧ octet.toNat % 16 = low := by
  constructor
  · rintro rfl
    rw [join, UInt8.toNat_ofNat', Nat.mod_eq_of_lt (by omega)]
    omega
  · rintro ⟨rfl, rfl⟩
    exact (join_halves octet).symm

theorem digit_injective {left right : Nat} (leftSmall : left < 16) (rightSmall : right < 16)
    (same : digit left = digit right) : left = right := by
  have all : ∀ left < 16, ∀ right < 16, digit left = digit right → left = right := by
    decide +kernel
  exact all left leftSmall right rightSmall same

theorem digit_inj {left right : Nat} (leftSmall : left < 16) (rightSmall : right < 16) :
    digit left = digit right ↔ left = right :=
  ⟨digit_injective leftSmall rightSmall, congrArg digit⟩

/-- The values of the digits of a string of octets. -/
def halves (octets : Bytes) : List Nat :=
  octets.flatMap fun octet => [octet.toNat / 16, octet.toNat % 16]

theorem length_halves (octets : Bytes) : (halves octets).length = 2 * octets.length :=
  length_flatMap_of_width fun _ => rfl

theorem map_digit_halves (octets : Bytes) :
    (halves octets).map digit = octets.flatMap ofByte := by
  rw [halves, List.map_flatMap]
  rfl

theorem lt_of_mem_halves {octets : Bytes} {value : Nat} (member : value ∈ halves octets) :
    value < 16 := by
  rcases List.mem_flatMap.mp member with ⟨octet, -, half⟩
  simp only [List.mem_cons, List.not_mem_nil, or_false] at half
  rcases half with rfl | rfl
  · exact high_lt octet
  · exact low_lt octet

/-- Pairs of digits are read as the octets whose halves they have as values. -/
theorem decodePairs_eq_ok_iff {position : Nat} {digits octets : Bytes} :
    decodePairs position digits = .ok octets ↔
      digits.map digitValue? = (halves octets).map some := by
  fun_induction decodePairs position digits generalizing octets with
  | case1 position => cases octets <;> simp [halves]
  | case2 position single => cases octets <;> simp [halves]
  | case3 position high low rest highValue lowValue lowRead highRead ih =>
      cases octets with
      | nil => cases decodePairs (position + 2) rest <;> simp [halves, Except.map]
      | cons octet octets =>
          calc (decodePairs (position + 2) rest).map (join highValue lowValue :: ·) =
                .ok (octet :: octets)
              ↔ octet = join highValue lowValue ∧
                  decodePairs (position + 2) rest = .ok octets := by
                cases decodePairs (position + 2) rest <;> simp [Except.map, eq_comm]
            _ ↔ (octet.toNat / 16 = highValue ∧ octet.toNat % 16 = lowValue) ∧
                  rest.map digitValue? = (halves octets).map some := by
                rw [eq_join_iff (digitValue?_lt highRead) (digitValue?_lt lowRead), ih]
            _ ↔ (high :: low :: rest).map digitValue? =
                  (halves (octet :: octets)).map some := by
                simp [halves, highRead, lowRead, eq_comm, and_assoc]
  | case4 position high low rest highRead => cases octets <;> simp [halves, highRead]
  | case5 position high low rest highValue highRead lowRead =>
      cases octets <;> simp [halves, highRead, lowRead]

/-! ## Texts -/

/-- The octets of a text have certain values exactly if its characters, in lowercase,
are the digits with these values. -/
theorem map_digitValue?_iff {characters : List Char} {values : List Nat}
    (small : ∀ value ∈ values, value < 16) :
    (characters.flatMap String.utf8EncodeChar).map digitValue? = values.map some ↔
      characters.map Char.toLower = values.map digit := by
  induction characters generalizing values with
  | nil => cases values <;> simp
  | cons character characters ih =>
      by_cases isDigit : IsDigit character
      · rcases exists_value_of_isDigit isDigit with ⟨first, firstSmall, lowered, read⟩
        rw [List.flatMap_cons, List.map_append, read, List.map_cons, lowered]
        cases values with
        | nil => simp
        | cons value values =>
            have sameDigit := digit_inj firstSmall (small value (.head _))
            simp [sameDigit, ih fun later member => small later (.tail _ member)]
      · rcases List.exists_cons_of_ne_nil (String.utf8EncodeChar_ne_nil (c := character)) with
          ⟨octet, octets, written⟩
        have unread : digitValue? octet = none :=
          digitValue?_of_not_isDigit isDigit (written ▸ .head _)
        rw [List.flatMap_cons, written]
        cases values with
        | nil => simp
        | cons value values =>
            have different : character.toLower ≠ digit value := fun same =>
              isDigit (isDigit_of_toLower_eq (small value (.head _)) same)
            simp [unread, different]

/-- A text is read as octets exactly if it is their digits, each of them in either
case. -/
theorem decode_eq_ok_iff {text : String} {octets : Bytes} :
    decode text = .ok octets ↔ text.toList.map Char.toLower = octets.flatMap ofByte := by
  have pairs : decodePairs 0 (Bytes.ofText text) = .ok octets ↔
      text.toList.map Char.toLower = octets.flatMap ofByte := by
    rw [decodePairs_eq_ok_iff, Bytes.ofText,
      map_digitValue?_iff fun _ member => lt_of_mem_halves member, map_digit_halves]
  rw [← pairs, decode]
  split
  · next odd =>
      rw [decodePairs_eq_ok_iff]
      constructor
      · simp
      · intro same
        have size := congrArg List.length same
        rw [List.length_map, List.length_map, length_halves] at size
        omega
  · rfl

theorem length_of_decode {text : String} {octets : Bytes} (read : decode text = .ok octets) :
    text.length = 2 * octets.length := by
  have size := congrArg List.length (decode_eq_ok_iff.mp read)
  rw [List.length_map, length_flatMap_of_width length_ofByte] at size
  exact size

/-- Any even number of digits are those of some octets. -/
theorem exists_octets_of_isDigit : (characters : List Char) → 2 ∣ characters.length →
    (∀ character ∈ characters, IsDigit character) →
    ∃ octets : Bytes, characters.map Char.toLower = octets.flatMap ofByte
  | [], _, _ => ⟨[], rfl⟩
  | [_], even, _ => by simp at even
  | first :: second :: rest, even, all => by
      have restEven : 2 ∣ rest.length := (Nat.dvd_add_left (Nat.dvd_refl 2)).mp even
      rcases exists_value_of_isDigit (all first (.head _)) with ⟨high, highSmall, highLower, -⟩
      rcases exists_value_of_isDigit (all second (.tail _ (.head _))) with
        ⟨low, lowSmall, lowLower, -⟩
      rcases exists_octets_of_isDigit rest restEven
          fun later member => all later (.tail _ (.tail _ member)) with ⟨octets, same⟩
      rcases (eq_join_iff highSmall lowSmall).mp rfl with ⟨highHalf, lowHalf⟩
      refine ⟨join high low :: octets, ?_⟩
      rw [List.flatMap_cons, ofByte, highHalf, lowHalf, ← same, ← highLower, ← lowLower]
      rfl

/-- A text is read exactly if it is an even number of digits. -/
theorem exists_decode_iff {text : String} : (∃ octets, decode text = .ok octets) ↔ IsText text := by
  simp only [decode_eq_ok_iff]
  constructor
  · rintro ⟨octets, same⟩
    constructor
    · exact ⟨_, length_of_decode (decode_eq_ok_iff.mpr same)⟩
    · intro character member
      have lowered : character.toLower ∈ octets.flatMap ofByte :=
        same ▸ List.mem_map_of_mem member
      rw [← map_digit_halves] at lowered
      rcases List.mem_map.mp lowered with ⟨value, half, digitOf⟩
      exact isDigit_of_toLower_eq (lt_of_mem_halves half) digitOf.symm
  · rintro ⟨even, all⟩
    exact exists_octets_of_isDigit text.toList even all

theorem isDigit_of_map_toLower {characters : List Char} {octets : Bytes}
    (same : characters.map Char.toLower = octets.flatMap ofByte) :
    ∀ character ∈ characters, IsDigit character := by
  have read : decode (String.ofList characters) = .ok octets := by
    rw [decode_eq_ok_iff, String.toList_ofList, same]
  have isText := exists_decode_iff.mp ⟨octets, read⟩
  rw [IsText, String.toList_ofList] at isText
  exact isText.2

theorem map_toLower_digits (octets : Bytes) :
    (octets.flatMap ofByte).map Char.toLower = octets.flatMap ofByte := by
  have read := decode_eq_ok_iff.mp (decode_encode octets)
  rwa [encode, String.toList_ofList] at read

theorem isDigit_of_mem_encode {octets : Bytes} {character : Char}
    (member : character ∈ (encode octets).toList) : IsDigit character := by
  rw [encode, String.toList_ofList] at member
  exact isDigit_of_map_toLower (map_toLower_digits octets) character member

end Hex

/-! ## Identifiers -/

namespace PeerId

theorem length_toHex (id : PeerId) : id.toHex.length = 16 := by
  rw [toHex, Hex.encode, String.length_ofList, length_flatMap_of_width Hex.length_ofByte,
    id.length_bytes]

/-- The strict form of an identifier: sixteen digits. -/
def IsStrict (text : String) : Prop :=
  text.length = 16 ∧ ∀ character ∈ text.toList, Hex.IsDigit character

instance : DecidablePred IsStrict := fun text =>
  @instDecidableAnd _ _ inferInstance (List.decidableBAll Hex.IsDigit text.toList)

theorem parse_eq_ok_iff {text : String} {id : PeerId} :
    parse text = .ok id ↔ Hex.decode text = .ok id.bytes := by
  unfold parse
  cases Hex.decode text with
  | error cause => simp
  | ok octets =>
      by_cases full : octets.length = 8
      · simp [full, PeerId.ext_iff]
      · have other : octets ≠ id.bytes := fun same => full (same ▸ id.length_bytes)
        simp [full, other]

/-- The strict reading accepts sixteen digits and nothing else. -/
theorem exists_parse_iff {text : String} : (∃ id, parse text = .ok id) ↔ IsStrict text := by
  simp only [parse_eq_ok_iff]
  constructor
  · rintro ⟨id, read⟩
    refine ⟨?_, (Hex.exists_decode_iff.mp ⟨id.bytes, read⟩).2⟩
    rw [Hex.length_of_decode read, id.length_bytes]
  · rintro ⟨size, digits⟩
    have even : 2 ∣ text.length := size ▸ by decide
    rcases Hex.exists_decode_iff.mpr ⟨even, digits⟩ with ⟨octets, read⟩
    have full : octets.length = 8 := by
      have := Hex.length_of_decode read
      omega
    exact ⟨⟨octets, full⟩, read⟩

theorem parse_of_not_isStrict {text : String} (other : ¬IsStrict text) :
    parse text = .error ⟨text⟩ := by
  have refused : ∀ id, parse text ≠ .ok id := fun id read =>
    other (exists_parse_iff.mp ⟨id, read⟩)
  unfold parse at refused ⊢
  split
  · next read =>
      split
      · next full => simp [read, full] at refused
      · rfl
  · rfl

end PeerId

end Announce
