import Announce.PeerId.Json
import Announce.Proofs.Tolerant

/-!
# Strict and canonical texts

The strict reading agrees with the tolerant one wherever it reads at all.  Every
identifier has one canonical text, which all ways of writing produce and all ways of
reading take back, and no other text is left as it is when it is read and written again.
-/

namespace Announce

open Hex (IsDigit charValue?)

namespace Hex

/-! ## Values of digits -/

theorem charValue?_eq_some_iff {character : Char} {value : Nat} (small : value < 16) :
    charValue? character = some value ↔ character.toLower = digit value := by
  by_cases isDigit : IsDigit character
  · rcases exists_charValue?_of_isDigit isDigit with ⟨value', small', lowered, read⟩
    rw [read, lowered, Option.some.injEq, digit_inj small' small]
  · have lowered : character.toLower ≠ digit value := fun same =>
      isDigit (isDigit_of_toLower_eq small same)
    simp [charValue?_of_not_isDigit isDigit, lowered]

theorem map_charValue?_iff {characters : List Char} {values : List Nat}
    (small : ∀ value ∈ values, value < 16) :
    characters.map charValue? = values.map some ↔
      characters.map Char.toLower = values.map digit := by
  induction characters generalizing values with
  | nil => cases values <;> simp
  | cons character characters ih =>
      cases values with
      | nil => simp
      | cons value values =>
          have later := ih fun value member => small value (.tail _ member)
          rw [List.map_cons, List.map_cons, List.map_cons, List.map_cons, List.cons.injEq,
            List.cons.injEq, charValue?_eq_some_iff (small value (.head _)), later]

/-- A text is read as the octets whose halves are the values of its digits. -/
theorem decode_eq_ok_iff_values {text : String} {octets : Bytes} :
    decode text = .ok octets ↔ text.toList.map charValue? = (halves octets).map some := by
  rw [decode_eq_ok_iff, map_charValue?_iff fun _ member => lt_of_mem_halves member,
    map_digit_halves]

/-- A digit as identifiers are written: a lowercase one. -/
def IsLowerDigit (character : Char) : Prop :=
  ('0' ≤ character ∧ character ≤ '9') ∨ ('a' ≤ character ∧ character ≤ 'f')

instance : DecidablePred IsLowerDigit := fun _ => inferInstanceAs (Decidable (_ ∨ _))

theorem isLowerDigit_iff {character : Char} :
    IsLowerDigit character ↔ IsDigit character ∧ character.toLower = character := by
  constructor
  · intro lower
    have isDigit : IsDigit character := lower.imp_right .inr
    have known : IsLowerDigit character → character.toLower = character :=
      forall_isDigit (by decide +kernel) character isDigit
    exact ⟨isDigit, known lower⟩
  · rintro ⟨isDigit, same⟩
    have known : character.toLower = character → IsLowerDigit character :=
      forall_isDigit (by decide +kernel) character isDigit
    exact known same

end Hex

namespace PeerId

open Text (spread)

/-! ## The strict reading -/

theorem flatMap_spread_of_isDigit {characters : List Char}
    (digits : ∀ character ∈ characters, IsDigit character) :
    characters.flatMap spread = characters := by
  induction characters with
  | nil => rfl
  | cons character characters ih =>
      have undotted : character ≠ '\u0130' := by
        rintro rfl
        exact absurd (digits _ (.head _)) (by decide)
      rw [List.flatMap_cons, spread, if_neg undotted,
        ih fun later member => digits later (.tail _ member)]
      rfl

theorem map_charValue?_of_decode {text : String} {octets : Bytes}
    (read : Hex.decode text = .ok octets) :
    (text.toList.flatMap spread).map charValue? = (Hex.halves octets).map some := by
  have lowered := Hex.decode_eq_ok_iff.mp read
  rw [flatMap_spread_of_isDigit (Hex.isDigit_of_map_toLower lowered)]
  exact Hex.decode_eq_ok_iff_values.mp read

/-- What the strict reading reads, the tolerant one reads as the same identifier. -/
theorem ofText_of_parse {text : String} {id : PeerId} (read : parse text = .ok id) :
    ofText text = id := by
  calc ofText text
      = ofText id.toHex := by
        rw [ofText_eq, ofText_eq]
        apply ofAscii_congr
        rw [map_charValue?_of_decode (parse_eq_ok_iff.mp read), toHex,
          map_charValue?_of_decode (Hex.decode_encode id.bytes)]
    _ = id := ofText_toHex id

theorem parse_of_isStrict {text : String} (strict : IsStrict text) :
    parse text = .ok (ofText text) := by
  rcases exists_parse_iff.mpr strict with ⟨id, read⟩
  rw [ofText_of_parse read, read]

/-- The text of an identifier that was read strictly is the one that was read, in
lowercase. -/
theorem toHex_ofText_of_isStrict {text : String} (strict : IsStrict text) :
    (ofText text).toHex = String.ofList (text.toList.map Char.toLower) := by
  have read := parse_eq_ok_iff.mp (parse_of_isStrict strict)
  rw [Hex.decode_eq_ok_iff] at read
  rw [read, toHex, Hex.encode]

theorem ofJson_eq_ok_iff {value : Json} {id : PeerId} :
    ofJson value = .ok id ↔ ∃ text, value = .string text ∧ parse text = .ok id := by
  cases value with
  | string text =>
      rw [ofJson]
      constructor
      · intro given
        refine ⟨text, rfl, ?_⟩
        cases read : parse text with
        | ok id' =>
            rw [read] at given
            exact congrArg Except.ok (Except.ok.inj given)
        | error cause =>
            rw [read] at given
            cases given
      · rintro ⟨content, same, read⟩
        cases same
        rw [read]
        rfl
  | _ => simp [ofJson]

/-- The strict reading accepts sixteen digits, in either case, and reads them as the
tolerant reading does; any other text comes back with the refusal.  From JSON exactly the
strings of this form are read. -/
theorem parse_accepts_sixteen_digits (text : String) :
    parse text = (if IsStrict text then .ok (ofText text) else .error ⟨text⟩) ∧
    (IsStrict text → (ofText text).toHex = String.ofList (text.toList.map Char.toLower)) ∧
    ∀ (value : Json) (id : PeerId),
      ofJson value = .ok id ↔ ∃ content, value = .string content ∧ parse content = .ok id := by
  refine ⟨?_, toHex_ofText_of_isStrict, fun _ _ => ofJson_eq_ok_iff⟩
  split
  · next strict => exact parse_of_isStrict strict
  · next other => exact parse_of_not_isStrict other

/-- Digits in both cases are read, and sixteen octets that are not sixteen characters are
refused. -/
theorem parse_accepts_sixteen_digits_mixed :
    parse "AABBccddEEFF0011" = .ok (ofText "AABBccddEEFF0011") ∧
    (ofText "AABBccddEEFF0011").toHex = "aabbccddeeff0011" ∧
    parse "\u00e9\u00e9\u00e9\u00e9\u00e9\u00e9\u00e9\u00e9" =
      .error ⟨"\u00e9\u00e9\u00e9\u00e9\u00e9\u00e9\u00e9\u00e9"⟩ := by
  have strict : IsStrict "AABBccddEEFF0011" := by decide
  have other : ¬IsStrict "\u00e9\u00e9\u00e9\u00e9\u00e9\u00e9\u00e9\u00e9" := by decide
  rcases parse_accepts_sixteen_digits "AABBccddEEFF0011" with ⟨read, lowered, -⟩
  rcases parse_accepts_sixteen_digits "\u00e9\u00e9\u00e9\u00e9\u00e9\u00e9\u00e9\u00e9" with
    ⟨refused, -, -⟩
  rw [if_pos strict] at read
  rw [if_neg other] at refused
  exact ⟨read, lowered strict, refused⟩

/-! ## The canonical text -/

/-- The canonical texts: sixteen lowercase digits. -/
def IsCanonical (text : String) : Prop :=
  text.length = 16 ∧ ∀ character ∈ text.toList, Hex.IsLowerDigit character

theorem isCanonical_toHex (id : PeerId) : IsCanonical id.toHex := by
  refine ⟨length_toHex id, ?_⟩
  intro character member
  have lowered : character.toLower = character := by
    have same := Hex.map_toLower_digits id.bytes
    rw [toHex, Hex.encode, String.toList_ofList] at member
    exact List.map_inj_left.mp (same.trans (List.map_id _).symm) character member
  exact Hex.isLowerDigit_iff.mpr ⟨Hex.isDigit_of_mem_encode member, lowered⟩

/-- Exactly the canonical texts are left as they are by reading and writing. -/
theorem toHex_ofText_eq_iff {text : String} : (ofText text).toHex = text ↔ IsCanonical text := by
  constructor
  · intro same
    rw [← same]
    exact isCanonical_toHex _
  · rintro ⟨size, lower⟩
    have strict : IsStrict text :=
      ⟨size, fun character member => (Hex.isLowerDigit_iff.mp (lower character member)).1⟩
    have lowered : text.toList.map Char.toLower = text.toList := by
      rw [List.map_congr_left fun character member =>
        (Hex.isLowerDigit_iff.mp (lower character member)).2]
      exact List.map_id _
    rw [toHex_ofText_of_isStrict strict, lowered, String.ofList_toList]

/-! ## Ways of writing -/

theorem toList_octetNumeral (octet : UInt8) : (octetNumeral octet).toList = Hex.ofByte octet := by
  have all : ∀ value < 256, ((Text.hexNumeral value).toList.leftpad 2 '0') =
      [Hex.digit (value / 16), Hex.digit (value % 16)] := by decide +kernel
  rw [octetNumeral, String.toList_ofList, all octet.toNat octet.toNat_lt, Hex.ofByte]

theorem display_eq_toHex (id : PeerId) : id.display = id.toHex := by
  rw [← String.toList_inj, display, toHex, Hex.encode, String.toList_join, List.flatMap_map,
    String.toList_ofList]
  simp only [toList_octetNumeral]

theorem escape_of_isDigit {character : Char} (isDigit : IsDigit character) :
    Json.escape character = character.toString :=
  Hex.forall_isDigit (by decide +kernel) character isDigit

theorem compact_toJson (id : PeerId) : id.toJson.compact = "\"" ++ id.toHex ++ "\"" := by
  have plain : id.toHex.toList.map Json.escape = id.toHex.toList.map Char.toString :=
    List.map_congr_left fun _ member => escape_of_isDigit (Hex.isDigit_of_mem_encode member)
  have joined : String.join (id.toHex.toList.map Char.toString) = id.toHex := by
    rw [← String.toList_inj, String.toList_join, List.flatMap_map]
    simp
  rw [toJson, Json.compact, Json.quote, plain, joined]

/-- Every way of writing an identifier gives its canonical text, from which every way of
reading gets it back.  Writing what was read from a text leaves the canonical texts as
they are, and no other text. -/
theorem toHex_is_canonical :
    (∀ id : PeerId,
      toString id = id.toHex ∧ id.toJson = .string id.toHex ∧
      id.toJson.compact = "\"" ++ id.toHex ++ "\"" ∧
      ofText id.toHex = id ∧ parse id.toHex = .ok id ∧ ofJson id.toJson = .ok id) ∧
    (∀ text : String, (ofText text).toHex = text ↔ IsCanonical text) ∧
    (∀ text : String, (ofText (ofText text).toHex).toHex = (ofText text).toHex) := by
  refine ⟨?_, fun text => toHex_ofText_eq_iff, fun text => ?_⟩
  · intro id
    have read : parse id.toHex = .ok id := parse_eq_ok_iff.mpr (Hex.decode_encode id.bytes)
    exact ⟨display_eq_toHex id, rfl, compact_toJson id, ofText_toHex id, read,
      ofJson_eq_ok_iff.mpr ⟨id.toHex, rfl, read⟩⟩
  · rw [ofText_toHex]

end PeerId

end Announce
