import Announce.Proofs.HexText

/-!
# The tolerant reading without Unicode

A text is put into lowercase before it is cut and read, and that is a matter of all of
Unicode.  Of all of it an identifier shows one thing: the dotted capital I counts for
two characters.  What is left of the reading looks at ASCII digits alone, and at no
more than the first sixteen characters.
-/

namespace Announce

open Hex (IsDigit)

namespace Hex

/-! ## Values of characters -/

/-- The value of a character that is an ASCII digit, in either case. -/
def charValue? (character : Char) : Option Nat :=
  if '0' ≤ character ∧ character ≤ '9' then some (character.toNat - '0'.toNat)
  else if 'A' ≤ character ∧ character ≤ 'F' then some (character.toNat - 'A'.toNat + 10)
  else if 'a' ≤ character ∧ character ≤ 'f' then some (character.toNat - 'a'.toNat + 10)
  else none

theorem charValue?_of_not_isDigit {character : Char} (other : ¬IsDigit character) :
    charValue? character = none := by
  simp only [IsDigit, not_or] at other
  rcases other with ⟨decimal, upper, lower⟩
  rw [charValue?, if_neg decimal, if_neg upper, if_neg lower]

theorem exists_charValue?_of_isDigit {character : Char} (isDigit : IsDigit character) :
    ∃ value < 16, character.toLower = digit value ∧ charValue? character = some value :=
  forall_isDigit (by decide +kernel) character isDigit

theorem not_isDigit_ofNat {code : Nat} (large : 102 < code) : ¬IsDigit (Char.ofNat code) := by
  intro isDigit
  by_cases valid : code.isValidChar
  · have character : Char.ofNat code = Char.ofNatAux code valid := dif_pos valid
    rw [character] at isDigit
    exact absurd (bounds_of_isDigit isDigit).2 (Nat.not_le.mpr large)
  · -- A number that is no code point stands for the character with the number zero.
    have character : Char.ofNat code = '\x00' := dif_neg valid
    rw [character] at isDigit
    exact absurd isDigit (by decide)

end Hex

open Hex (charValue?)

namespace Text

/-! ## Lowercase forms -/

/-- Two characters that are not digits in the place of a dotted capital I. -/
def spread (character : Char) : List Char :=
  if character = '\u0130' then ['-', '-'] else [character]

/-- A text in lowercase, in which the form of each character may be the one that it has
between any others. -/
inductive Lowers : List Char → List Char → Prop where
  | nil : Lowers [] []
  | cons {character : Char} {rest lowered : List Char} (before after : List Char) :
      Lowers rest lowered →
      Lowers (character :: rest) (lowerChar before character after ++ lowered)

theorem lowers_lowerAfter (before characters : List Char) :
    Lowers characters (lowerAfter before characters) := by
  induction characters generalizing before with
  | nil => exact .nil
  | cons character rest ih => exact .cons before rest (ih (character :: before))

/-- The lowercase forms of the letters outside ASCII lie behind the digits. -/
theorem lt_lowerCode {code : Nat} (foreign : 128 ≤ code) : 102 < lowerCode code := by
  have targets : ∀ run ∈ lowercaseRuns, run.last < 128 ∨ 102 < run.target := by decide +kernel
  unfold lowerCode
  cases found : lowercaseRuns.findSome? fun run => run.lower? code with
  | none =>
      rw [Option.getD_none]
      omega
  | some lowered =>
      rcases List.exists_of_findSome?_eq_some found with ⟨run, member, given⟩
      unfold CaseRun.lower? at given
      split at given
      · next covered =>
          rw [Option.some.injEq] at given
          rw [Option.getD_some, ← given]
          rcases targets run member with below | above
          · exact absurd (Nat.le_trans foreign covered.2.1) (Nat.not_le.mpr below)
          · exact Nat.lt_add_right _ above
      · cases given

theorem charValue?_lowerCode (character : Char) :
    charValue? (Char.ofNat (lowerCode character.toNat)) = charValue? character := by
  by_cases ascii : character.toNat < 128
  · exact Hex.forall_ascii (by decide +kernel) character ascii
  · have foreign := Nat.le_of_not_lt ascii
    have lowered : ¬IsDigit (Char.ofNat (lowerCode character.toNat)) :=
      Hex.not_isDigit_ofNat (lt_lowerCode foreign)
    have other : ¬IsDigit character := fun isDigit =>
      absurd (Hex.toNat_lt_of_isDigit isDigit) ascii
    rw [Hex.charValue?_of_not_isDigit lowered, Hex.charValue?_of_not_isDigit other]

/-- Between any other characters a character lowers to characters that have its value
as digits, except that a dotted capital I makes two. -/
theorem map_charValue?_lowerChar (before : List Char) (character : Char) (after : List Char) :
    (lowerChar before character after).map charValue? = (spread character).map charValue? := by
  unfold lowerChar spread
  split
  · rfl
  · split
    · next sigma =>
        rw [sigma]
        split <;> rfl
    · rw [List.map_singleton, List.map_singleton, charValue?_lowerCode]

theorem Lowers.map_charValue? {characters lowered : List Char}
    (lowers : Lowers characters lowered) :
    lowered.map Hex.charValue? = (characters.flatMap spread).map Hex.charValue? := by
  induction lowers with
  | nil => rfl
  | cons before after _ ih =>
      rw [List.flatMap_cons, List.map_append, List.map_append, map_charValue?_lowerChar, ih]

end Text

namespace PeerId

open Text (spread)

/-! ## Identifiers from ASCII digits -/

/-- The byte at a place of an identifier, as a pair of characters writes it: zero unless
both characters are there and are ASCII digits. -/
def asciiByte (characters : List Char) (index : Nat) : UInt8 :=
  match characters[2 * index]?.bind charValue?, characters[2 * index + 1]?.bind charValue? with
  | some high, some low => Hex.join high low
  | _, _ => 0

/-- The identifier of a text, read from its ASCII digits. -/
def ofAscii (text : String) : PeerId where
  bytes := (List.range 8).map (asciiByte ((text.toList.flatMap spread).take 16))
  length_bytes := by rw [List.length_map, List.length_range]

theorem bytes_ofAscii (text : String) :
    (ofAscii text).bytes =
      (List.range 8).map (asciiByte ((text.toList.flatMap spread).take 16)) := rfl

theorem asciiByte_congr {characters characters' : List Char}
    (same : characters.map charValue? = characters'.map charValue?) :
    asciiByte characters = asciiByte characters' := by
  have value (index : Nat) :
      characters[index]?.bind charValue? = characters'[index]?.bind charValue? := by
    have atIndex := congrArg (fun values => values[index]?.bind id) same
    simpa only [List.getElem?_map, Option.bind_map, Function.id_comp] using atIndex
  funext index
  rw [asciiByte, value, value, asciiByte]

/-- Texts whose characters have the same values as digits name the same identifier. -/
theorem ofAscii_congr {text text' : String}
    (same : (text.toList.flatMap spread).map charValue? =
      (text'.toList.flatMap spread).map charValue?) : ofAscii text = ofAscii text' := by
  have bytes : asciiByte ((text.toList.flatMap spread).take 16) =
      asciiByte ((text'.toList.flatMap spread).take 16) := by
    apply asciiByte_congr
    rw [List.map_take, List.map_take, same]
  apply PeerId.ext
  rw [bytes_ofAscii, bytes_ofAscii, bytes]

theorem pairByte_eq (high low : Char) :
    pairByte high low =
      match charValue? high, charValue? low with
      | some high, some low => Hex.join high low
      | _, _ => 0 := by
  have unread (other : ¬(IsDigit high ∧ IsDigit low)) : pairByte high low = 0 := by
    unfold pairByte
    cases read : Hex.decode (String.ofList [high, low]) with
    | error cause => rfl
    | ok octets =>
        have isText := Hex.exists_decode_iff.mp ⟨octets, read⟩
        rw [Hex.IsText, String.toList_ofList] at isText
        exact absurd ⟨isText.2 high (by simp), isText.2 low (by simp)⟩ other
  by_cases highDigit : IsDigit high
  · rcases Hex.exists_charValue?_of_isDigit highDigit with
      ⟨highValue, highSmall, highLower, highRead⟩
    by_cases lowDigit : IsDigit low
    · rcases Hex.exists_charValue?_of_isDigit lowDigit with
        ⟨lowValue, lowSmall, lowLower, lowRead⟩
      have read : Hex.decode (String.ofList [high, low]) =
          .ok [Hex.join highValue lowValue] := by
        rcases (Hex.eq_join_iff highSmall lowSmall).mp rfl with ⟨highHalf, lowHalf⟩
        rw [Hex.decode_eq_ok_iff, String.toList_ofList, List.flatMap_singleton, Hex.ofByte,
          highHalf, lowHalf, ← highLower, ← lowLower]
        rfl
      rw [pairByte, read, highRead, lowRead]
    · rw [unread fun both => lowDigit both.2, Hex.charValue?_of_not_isDigit lowDigit, highRead]
  · rw [unread fun both => highDigit both.1, Hex.charValue?_of_not_isDigit highDigit]

theorem getD_pairBytes (characters : List Char) (index : Nat) :
    (pairBytes characters)[index]?.getD 0 = asciiByte characters index := by
  fun_induction pairBytes characters generalizing index with
  | case1 high low rest ih =>
      cases index with
      | zero => exact pairByte_eq high low
      | succ index => exact ih index
  | case2 characters short =>
      have missing : characters[2 * index + 1]? = none := by
        match characters, short with
        | [], _ => rfl
        | [_], _ => rw [List.getElem?_cons_succ, List.getElem?_nil]
        | high :: low :: rest, short => exact absurd rfl (short high low rest)
      rw [asciiByte, missing]
      cases characters[2 * index]?.bind charValue? <;> rfl

theorem bytes_ofPadded (octets : Bytes) :
    (ofPadded octets).bytes = (List.range 8).map fun index => octets[index]?.getD 0 := by
  apply List.ext_getElem
  · rw [(ofPadded octets).length_bytes, List.length_map, List.length_range]
  · intro index inside _
    rw [List.getElem_map, List.getElem_range]
    rw [(ofPadded octets).length_bytes] at inside
    simp only [ofPadded, List.rightpad, List.getElem_append, List.length_take, List.getElem_take,
      List.getElem_replicate]
    split
    · next present =>
        rw [List.getElem?_eq_getElem (by omega)]
        rfl
    · next missing =>
        rw [List.getElem?_eq_none (by omega)]
        rfl

/-- Whichever lowercase form of a text is cut and read, the identifier is the one of its
ASCII digits. -/
theorem ofPadded_pairBytes {text : String} {lowered : List Char}
    (lowers : Text.Lowers text.toList lowered) :
    ofPadded (pairBytes (lowered.take hexSize)) = ofAscii text := by
  have same : asciiByte (lowered.take hexSize) =
      asciiByte ((text.toList.flatMap spread).take 16) := by
    apply asciiByte_congr
    rw [List.map_take, List.map_take, lowers.map_charValue?]
    rfl
  apply PeerId.ext
  rw [bytes_ofPadded, bytes_ofAscii, ← same]
  exact List.map_congr_left fun index _ => getD_pairBytes _ index

/-- Items that are each written with others are not needed behind those that fill the
front. -/
theorem take_flatMap_of_ne_nil {α β : Type} {image : α → List β}
    (written : ∀ item, image item ≠ []) {size count : Nat} (enough : size ≤ count)
    (items : List α) :
    ((items.take count).flatMap image).take size = (items.flatMap image).take size := by
  induction items generalizing size count with
  | nil => rw [List.take_nil]
  | cons item items ih =>
      cases count with
      | zero => rw [Nat.le_zero.mp enough, List.take_zero, List.take_zero]
      | succ count =>
          have fewer : size - (image item).length ≤ count := by
            have positive := List.length_pos_iff.mpr (written item)
            omega
          rw [List.take_succ_cons, List.flatMap_cons, List.flatMap_cons, List.take_append,
            List.take_append, ih fewer]

theorem spread_ne_nil (character : Char) : spread character ≠ [] := by
  unfold spread
  split <;> exact List.cons_ne_nil _ _

theorem ofAscii_eq_of_take {text text' : String}
    (same : text.toList.take 16 = text'.toList.take 16) : ofAscii text = ofAscii text' := by
  have front (characters : List Char) :
      (characters.flatMap spread).take 16 = ((characters.take 16).flatMap spread).take 16 :=
    (take_flatMap_of_ne_nil spread_ne_nil (Nat.le_refl 16) characters).symm
  apply PeerId.ext
  rw [bytes_ofAscii, bytes_ofAscii, front text.toList, front text'.toList, same]

/-- Characters outside ASCII may be exchanged for any that are not digits, the dotted
capital I apart. -/
theorem ofAscii_exchange {exchange : Char → Char}
    (inert : ∀ character, exchange character = character ∨
      128 ≤ character.toNat ∧ character ≠ '\u0130' ∧
        ¬IsDigit (exchange character) ∧ exchange character ≠ '\u0130')
    (text : String) : ofAscii (String.ofList (text.toList.map exchange)) = ofAscii text := by
  have values (character : Char) :
      (spread (exchange character)).map charValue? = (spread character).map charValue? := by
    rcases inert character with kept | ⟨foreign, undotted, other, undotted'⟩
    · rw [kept]
    · have unread : ¬IsDigit character := fun isDigit =>
        absurd (Hex.toNat_lt_of_isDigit isDigit) (Nat.not_lt.mpr foreign)
      rw [spread, spread, if_neg undotted, if_neg undotted', List.map_singleton,
        List.map_singleton, Hex.charValue?_of_not_isDigit unread,
        Hex.charValue?_of_not_isDigit other]
  apply ofAscii_congr
  rw [String.toList_ofList, List.flatMap_map, List.map_flatMap, List.map_flatMap]
  simp only [values]

theorem ofText_eq (text : String) : ofText text = ofAscii text :=
  ofPadded_pairBytes (Text.lowers_lowerAfter [] text.toList)

/-- The tolerant reading is the reading of the ASCII digits among the first sixteen
characters, where a dotted capital I counts for two.  No other character outside ASCII
is more than a character that is not a digit, and it does not matter between which
others a character is lowered. -/
theorem ofText_reads_ascii (text : String) :
    ofText text = ofAscii text ∧
    (∀ text' : String, text'.toList.take 16 = text.toList.take 16 → ofText text' = ofText text) ∧
    (∀ exchange : Char → Char,
      (∀ character, exchange character = character ∨
        128 ≤ character.toNat ∧ character ≠ '\u0130' ∧
          ¬IsDigit (exchange character) ∧ exchange character ≠ '\u0130') →
      ofText (String.ofList (text.toList.map exchange)) = ofText text) ∧
    (∀ lowered, Text.Lowers text.toList lowered →
      ofPadded (pairBytes (lowered.take hexSize)) = ofText text) := by
  refine ⟨ofText_eq text, ?_, ?_, ?_⟩
  · intro text' same
    rw [ofText_eq, ofText_eq]
    exact ofAscii_eq_of_take same
  · intro exchange inert
    rw [ofText_eq, ofText_eq]
    exact ofAscii_exchange inert text
  · intro lowered lowers
    rw [ofText_eq]
    exact ofPadded_pairBytes lowers

/-- The dotted capital I makes up the first byte and pushes the sixteenth character out;
the capital sigma spoils the third byte and may as well be a hyphen. -/
theorem ofText_reads_ascii_dotted :
    let text := "\u01301A\u03A3F000000000ff"
    (ofText text).bytes = [0, 0x1A, 0, 0, 0, 0, 0, 0x0F] ∧
    ofText (text ++ "e") = ofText text ∧
    ofText "\u01301A-F000000000ff" = ofText text := by
  intro text
  rcases ofText_reads_ascii text with ⟨ascii, front, exchange, -⟩
  refine ⟨?_, ?_, ?_⟩
  · rw [ascii]
    decide +kernel
  · exact front _ (by decide +kernel)
  · have replaced : String.ofList (text.toList.map
        fun character => if character = '\u03A3' then '-' else character) =
        "\u01301A-F000000000ff" := by decide +kernel
    rw [← replaced]
    apply exchange
    intro character
    by_cases sigma : character = '\u03A3'
    · subst sigma
      exact .inr (by decide)
    · exact .inl (if_neg sigma)

end PeerId

end Announce
