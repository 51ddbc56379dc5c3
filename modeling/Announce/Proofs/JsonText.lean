import Announce.Json
import Announce.PeerId

/-!
# JSON texts tell their values apart

The compact text of a value is told from the texts of all other values, also where more
text follows it.  A number ends where no digit follows, a string ends at the first
quotation mark that is not escaped, and the first character of any text says what kind
of value it is.  This holds of the values that reports are made of: doubles are left
out, of which many share their text, and so are negative numbers.
-/

namespace Announce

/-! ## Numbers -/

/-- A text does not go on with a digit. -/
def EndsNumber (rest : List Char) : Prop :=
  ∀ character, rest.head? = some character → character.isDigit = false

theorem endsNumber_nil : EndsNumber [] := by
  simp [EndsNumber]

theorem endsNumber_cons {character : Char} {rest : List Char}
    (other : character.isDigit = false) : EndsNumber (character :: rest) := by
  simp [EndsNumber, other]

/-- A text tells two things apart, also in front of more text. -/
def Separates {α : Type} (text : α → List Char) (item item' : α) : Prop :=
  ∀ {rest rest' : List Char}, EndsNumber rest → EndsNumber rest' →
    text item ++ rest = text item' ++ rest' → item = item' ∧ rest = rest'

theorem takeWhile_isDigit {digits rest : List Char}
    (all : ∀ character ∈ digits, character.isDigit) (ends : EndsNumber rest) :
    (digits ++ rest).takeWhile Char.isDigit = digits := by
  rw [List.takeWhile_append_of_pos all]
  cases rest with
  | nil => simp
  | cons character rest => simp [ends character rfl]

theorem isDigit_of_mem_toString {number : Nat} {character : Char}
    (member : character ∈ (toString number).toList) : character.isDigit := by
  rw [Nat.toString_eq_ofList_toDigits, String.toList_ofList] at member
  exact Nat.isDigit_of_mem_toDigits (by decide) (by decide) member

/-- A number is written with at least one digit. -/
theorem exists_toString_eq_cons (number : Nat) :
    ∃ digit digits, (toString number).toList = digit :: digits ∧ digit.isDigit := by
  have nonempty : (toString number).toList ≠ [] := by
    rw [Nat.toString_eq_ofList_toDigits, String.toList_ofList]
    exact Nat.toDigits_ne_nil
  rcases List.exists_cons_of_ne_nil nonempty with ⟨digit, digits, split⟩
  have member : digit ∈ (toString number).toList := by
    rw [split]
    exact List.mem_cons_self
  exact ⟨digit, digits, split, isDigit_of_mem_toString member⟩

theorem toString_nat_injective {left right : Nat} (same : toString left = toString right) :
    left = right := by
  rw [Nat.toString_eq_ofList_toDigits, Nat.toString_eq_ofList_toDigits, String.ofList_inj] at same
  have value := congrArg (Nat.ofDigitChars 10 · 0) same
  simpa only [Nat.ofDigitChars_ten_toDigits] using value

theorem separates_number (left right : Nat) :
    Separates (fun number : Nat => (toString number).toList) left right := by
  intro rest rest' ends ends' same
  have digits := congrArg (List.takeWhile Char.isDigit) same
  rw [takeWhile_isDigit (fun _ => isDigit_of_mem_toString) ends,
    takeWhile_isDigit (fun _ => isDigit_of_mem_toString) ends', String.toList_inj] at digits
  have value := toString_nat_injective digits
  subst value
  exact ⟨rfl, List.append_cancel_left same⟩

namespace Json

/-! ## Strings -/

/-- Read a character of a JSON string, and leave what follows it. -/
def unescape : List Char → Option (Char × List Char)
  | '\\' :: 'u' :: '0' :: '0' :: high :: low :: rest =>
      some (Char.ofNat (PeerId.pairByte high low).toNat, rest)
  | '\\' :: 'b' :: rest => some ('\x08', rest)
  | '\\' :: 't' :: rest => some ('\t', rest)
  | '\\' :: 'n' :: rest => some ('\n', rest)
  | '\\' :: 'f' :: rest => some ('\x0c', rest)
  | '\\' :: 'r' :: rest => some ('\r', rest)
  | '\\' :: character :: rest => some (character, rest)
  | character :: rest => some (character, rest)
  | [] => none

theorem unescape_cons {character : Char} (plain : character ≠ '\\') (rest : List Char) :
    unescape (character :: rest) = some (character, rest) := by
  unfold unescape
  split <;> simp_all

theorem pairByte_control {code : Nat} (control : code < 0x20) :
    (PeerId.pairByte (Nat.digitChar (code / 16)) (Nat.digitChar (code % 16))).toNat = code := by
  have all : ∀ code < 0x20,
      (PeerId.pairByte (Nat.digitChar (code / 16)) (Nat.digitChar (code % 16))).toNat = code := by
    decide +kernel
  exact all code control

/-- A character is read back, whatever follows it. -/
theorem unescape_escape (character : Char) (rest : List Char) :
    unescape ((escape character).toList ++ rest) = some (character, rest) := by
  by_cases short : character ∈ ['"', '\\', '\x08', '\t', '\n', '\x0c', '\r']
  · simp only [List.mem_cons, List.not_mem_nil, or_false] at short
    rcases short with rfl | rfl | rfl | rfl | rfl | rfl | rfl <;> rfl
  · simp only [List.mem_cons, List.not_mem_nil, or_false, not_or] at short
    rcases short with ⟨quotation, backslash, backspace, tab, newline, formFeed, carriageReturn⟩
    rw [escape, if_neg quotation, if_neg backslash, if_neg backspace, if_neg tab, if_neg newline,
      if_neg formFeed, if_neg carriageReturn]
    by_cases control : character.toNat < 0x20
    · rw [if_pos control, String.toList_ofList]
      change some (Char.ofNat (PeerId.pairByte _ _).toNat, rest) = _
      rw [pairByte_control control, Char.ofNat_toNat]
    · rw [if_neg control]
      rw [Char.toString_eq_singleton, String.toList_singleton]
      exact unescape_cons backslash rest

theorem escape_append_inj {left right : Char} {rest rest' : List Char}
    (same : (escape left).toList ++ rest = (escape right).toList ++ rest') :
    left = right ∧ rest = rest' := by
  have read := congrArg unescape same
  rw [unescape_escape, unescape_escape, Option.some.injEq, Prod.mk.injEq] at read
  exact read

/-- No character inside a string passes for the end of the string. -/
theorem escape_append_ne (character : Char) (rest rest' : List Char) :
    (escape character).toList ++ rest ≠ '"' :: rest' := by
  intro same
  have read := congrArg unescape same
  rw [unescape_escape, unescape_cons (by decide), Option.some.injEq, Prod.mk.injEq] at read
  rw [read.1] at same
  exact absurd (List.cons.inj same).1 (by decide)

theorem escapeAll_append_inj {left right rest rest' : List Char}
    (same : left.flatMap (fun character => (escape character).toList) ++ '"' :: rest =
      right.flatMap (fun character => (escape character).toList) ++ '"' :: rest') :
    left = right ∧ rest = rest' := by
  induction left generalizing right with
  | nil =>
      cases right with
      | nil => exact ⟨rfl, (List.cons.inj same).2⟩
      | cons character right =>
          rw [List.flatMap_cons, List.append_assoc] at same
          exact absurd same.symm (escape_append_ne _ _ _)
  | cons character left ih =>
      rw [List.flatMap_cons, List.append_assoc] at same
      cases right with
      | nil => exact absurd same (escape_append_ne _ _ _)
      | cons character' right =>
          rw [List.flatMap_cons, List.append_assoc] at same
          rcases escape_append_inj same with ⟨rfl, later⟩
          rcases ih later with ⟨rfl, back⟩
          exact ⟨rfl, back⟩

theorem toList_quote (text : String) :
    (quote text).toList =
      '"' :: (text.toList.flatMap (fun character => (escape character).toList) ++ ['"']) := by
  rw [quote, String.toList_append, String.toList_append, String.toList_join, List.flatMap_map]
  rfl

theorem quote_append_inj {left right : String} {rest rest' : List Char}
    (same : (quote left).toList ++ rest = (quote right).toList ++ rest') :
    left = right ∧ rest = rest' := by
  rw [toList_quote, toList_quote] at same
  simp only [List.cons_append, List.append_assoc, List.nil_append] at same
  rcases escapeAll_append_inj (List.cons.inj same).2 with ⟨characters, back⟩
  exact ⟨String.toList_inj.mp characters, back⟩

/-! ## Sequences and maps -/

section

variable {α : Type} (text : α → List Char) (close : Char)

/-- What stands behind an item: the other items, each behind a comma, and the end. -/
def behind (rest : List Char) : List α → List Char
  | [] => close :: rest
  | item :: items => ',' :: (text item ++ behind rest items)

theorem intercalate_append (item : α) (items : List α) (rest : List Char) :
    [','].intercalate ((item :: items).map text) ++ close :: rest =
      text item ++ behind text close rest items := by
  induction items generalizing item with
  | nil => simp [behind]
  | cons next items ih =>
      rw [List.map_cons, List.map_cons, List.intercalate_cons_cons, List.append_assoc,
        ← List.map_cons, ih, behind, List.append_assoc]
      rfl

variable {text close}

theorem endsNumber_behind (other : close.isDigit = false) (rest : List Char) (items : List α) :
    EndsNumber (behind text close rest items) := by
  cases items with
  | nil => exact endsNumber_cons other
  | cons item items => exact endsNumber_cons (by decide)

theorem behind_inj (other : close.isDigit = false) (notComma : close ≠ ',')
    {items items' : List α} {rest rest' : List Char}
    (separates : ∀ item ∈ items, ∀ item' ∈ items', Separates text item item')
    (same : behind text close rest items = behind text close rest' items') :
    items = items' ∧ rest = rest' := by
  induction items generalizing items' with
  | nil =>
      cases items' with
      | nil => exact ⟨rfl, (List.cons.inj same).2⟩
      | cons item' items' => exact absurd (List.cons.inj same).1 notComma
  | cons item items ih =>
      cases items' with
      | nil => exact absurd (List.cons.inj same).1.symm notComma
      | cons item' items' =>
          -- Behind either item stands a comma or the end, so a number in it ends there.
          rcases separates item (.head _) item' (.head _) (endsNumber_behind other rest items)
            (endsNumber_behind other rest' items') (List.cons.inj same).2 with ⟨rfl, later⟩
          have separatesLater : ∀ item ∈ items, ∀ item' ∈ items', Separates text item item' :=
            fun item member item' member' => separates item (.tail _ member) item' (.tail _ member')
          rcases ih separatesLater later with ⟨rfl, back⟩
          exact ⟨rfl, back⟩

/-- Items with commas between them are told apart if each of them is, and if none of
them begins like the end. -/
theorem intercalate_append_inj (other : close.isDigit = false) (notComma : close ≠ ',')
    {items items' : List α} {rest rest' : List Char}
    (separates : ∀ item ∈ items, ∀ item' ∈ items', Separates text item item')
    (opens : ∀ item, item ∈ items ∨ item ∈ items' →
      ∀ rest rest', text item ++ rest ≠ close :: rest')
    (same : [','].intercalate (items.map text) ++ close :: rest =
      [','].intercalate (items'.map text) ++ close :: rest') :
    items = items' ∧ rest = rest' := by
  cases items with
  | nil =>
      cases items' with
      | nil => exact ⟨rfl, (List.cons.inj same).2⟩
      | cons item' items' =>
          rw [intercalate_append] at same
          exact absurd same.symm (opens item' (.inr (.head _)) _ _)
  | cons item items =>
      rw [intercalate_append] at same
      cases items' with
      | nil => exact absurd same (opens item (.inl (.head _)) _ _)
      | cons item' items' =>
          rw [intercalate_append] at same
          exact behind_inj other notComma separates (congrArg (',' :: ·) same)

end

theorem compactItems_eq (items : List Json) : compactItems items = items.map compact := by
  induction items with
  | nil => rfl
  | cons item items ih => rw [compactItems, ih, List.map_cons]

/-- The text of a field. -/
def fieldText (field : String × Json) : String :=
  quote field.1 ++ ":" ++ compact field.2

theorem compactFields_eq (fields : List (String × Json)) :
    compactFields fields = fields.map fieldText := by
  induction fields with
  | nil => rfl
  | cons field fields ih => rw [compactFields, ih, List.map_cons, fieldText]

theorem toList_compact_sequence (items : List Json) (rest : List Char) :
    (compact (.sequence items)).toList ++ rest =
      '[' :: ([','].intercalate (items.map fun item => item.compact.toList) ++ ']' :: rest) := by
  have all : (compactItems items).map String.toList =
      items.map fun item => item.compact.toList := by
    rw [compactItems_eq, List.map_map]
    rfl
  rw [compact, String.toList_append, String.toList_append, String.toList_intercalate, all,
    List.append_assoc, List.append_assoc]
  rfl

theorem toList_compact_map (fields : List (String × Json)) (rest : List Char) :
    (compact (.map fields)).toList ++ rest =
      '\x7b' :: ([','].intercalate (fields.map fun field => (fieldText field).toList) ++
        '\x7d' :: rest) := by
  have all : (compactFields fields).map String.toList =
      fields.map fun field => (fieldText field).toList := by
    rw [compactFields_eq, List.map_map]
    rfl
  rw [compact, String.toList_append, String.toList_append, String.toList_intercalate, all,
    List.append_assoc, List.append_assoc]
  rfl

/-! ## Values -/

/-- The values that reports are made of. -/
inductive IsPlain : Json → Prop where
  | null : IsPlain .null
  | boolean (value : Bool) : IsPlain (.boolean value)
  | nat (value : Nat) : IsPlain (.integer value)
  | string (value : String) : IsPlain (.string value)
  | sequence {items : List Json} : (∀ item ∈ items, IsPlain item) → IsPlain (.sequence items)
  | map {fields : List (String × Json)} :
      (∀ field ∈ fields, IsPlain field.2) → IsPlain (.map fields)

/-- The characters that the text of a value may begin with. -/
def Begins (character : Char) : Json → Prop
  | .null => character = 'n'
  | .boolean true => character = 't'
  | .boolean false => character = 'f'
  | .integer _ => character.isDigit
  | .float _ => False
  | .string _ => character = '"'
  | .sequence _ => character = '['
  | .map _ => character = '\x7b'

theorem IsPlain.begins {value : Json} (plain : IsPlain value) :
    ∃ character rest, value.compact.toList = character :: rest ∧ Begins character value := by
  cases plain with
  | null => exact ⟨_, _, rfl, rfl⟩
  | boolean value => cases value <;> exact ⟨_, _, rfl, rfl⟩
  | nat value =>
      have text : compact (.integer value) = toString value := rfl
      rw [text]
      exact exists_toString_eq_cons value
  | string value => exact ⟨_, _, toList_quote value, rfl⟩
  | @sequence items _ =>
      have text := toList_compact_sequence items []
      rw [List.append_nil] at text
      exact ⟨_, _, text, rfl⟩
  | @map fields _ =>
      have text := toList_compact_map fields []
      rw [List.append_nil] at text
      exact ⟨_, _, text, rfl⟩

/-- Values of one kind. -/
inductive Alike : Json → Json → Prop where
  | null : Alike .null .null
  | boolean (value : Bool) : Alike (.boolean value) (.boolean value)
  | integer (left right : Int) : Alike (.integer left) (.integer right)
  | string (left right : String) : Alike (.string left) (.string right)
  | sequence (left right : List Json) : Alike (.sequence left) (.sequence right)
  | map (left right : List (String × Json)) : Alike (.map left) (.map right)

theorem alike_of_begins {character : Char} {left right : Json} (begins : Begins character left)
    (begins' : Begins character right) : Alike left right := by
  -- Either both values are of one kind, or the character is none that begins them both.
  unfold Begins at begins begins'
  split at begins <;> split at begins' <;>
    first
    | constructor
    | exact begins.elim
    | exact begins'.elim
    | (subst begins; exact absurd begins' (by decide))
    | (subst begins'; exact absurd begins (by decide))

/-- Texts that begin alike are texts of values of one kind. -/
theorem IsPlain.alike {left right : Json} (leftPlain : IsPlain left) (rightPlain : IsPlain right)
    {rest rest' : List Char}
    (same : left.compact.toList ++ rest = right.compact.toList ++ rest') : Alike left right := by
  rcases leftPlain.begins with ⟨character, back, text, begins⟩
  rcases rightPlain.begins with ⟨character', back', text', begins'⟩
  rw [text, text', List.cons_append, List.cons_append] at same
  have sameFirst := (List.cons.inj same).1
  subst sameFirst
  exact alike_of_begins begins begins'

theorem IsPlain.not_closing {value : Json} (plain : IsPlain value) (rest rest' : List Char) :
    value.compact.toList ++ rest ≠ ']' :: rest' := by
  rcases plain.begins with ⟨character, back, text, begins⟩
  rw [text, List.cons_append]
  intro same
  have sameFirst := (List.cons.inj same).1
  subst sameFirst
  unfold Begins at begins
  split at begins <;> revert begins <;> decide

theorem separates_field {field field' : String × Json}
    (separates : Separates (fun value : Json => value.compact.toList) field.2 field'.2) :
    Separates (fun field => (fieldText field).toList) field field' := by
  intro rest rest' ends ends' same
  simp only [fieldText, String.toList_append, List.append_assoc] at same
  rcases quote_append_inj same with ⟨names, values⟩
  rcases separates ends ends' (List.cons.inj values).2 with ⟨value, back⟩
  exact ⟨Prod.ext names value, back⟩

/-- Texts in fields are told apart together with the names of the fields. -/
theorem fieldText_append_inj {name name' text text' : String} {rest rest' : List Char}
    (same : (fieldText (name, .string text)).toList ++ rest =
      (fieldText (name', .string text')).toList ++ rest') :
    name = name' ∧ text = text' ∧ rest = rest' := by
  simp only [fieldText, String.toList_append, List.append_assoc] at same
  rcases quote_append_inj same with ⟨names, values⟩
  rcases quote_append_inj (List.cons.inj values).2 with ⟨texts, back⟩
  exact ⟨names, texts, back⟩

theorem fieldText_append_ne (field : String × Json) (rest rest' : List Char) :
    (fieldText field).toList ++ rest ≠ '\x7d' :: rest' := by
  rw [fieldText, String.toList_append, String.toList_append, toList_quote]
  intro same
  exact absurd (List.cons.inj same).1 (by decide)

/-- The texts of two different values are told apart at the latest where the shorter one
ends. -/
theorem IsPlain.separates {left : Json} (leftPlain : IsPlain left) :
    ∀ {right : Json}, IsPlain right →
      Separates (fun value : Json => value.compact.toList) left right := by
  -- The texts begin alike, so the right value is of the same kind as the left one, and the
  -- induction on the left one goes through their parts from the front.
  induction leftPlain with
  | null =>
      intro right rightPlain rest rest' ends ends' same
      cases IsPlain.null.alike rightPlain same
      exact ⟨rfl, List.append_cancel_left same⟩
  | boolean value =>
      intro right rightPlain rest rest' ends ends' same
      cases (IsPlain.boolean value).alike rightPlain same
      exact ⟨rfl, List.append_cancel_left same⟩
  | nat value =>
      intro right rightPlain rest rest' ends ends' same
      cases (IsPlain.nat value).alike rightPlain same
      cases rightPlain with
      | nat value' =>
          rcases separates_number value value' ends ends' same with ⟨number, back⟩
          exact ⟨congrArg Json.nat number, back⟩
  | string value =>
      intro right rightPlain rest rest' ends ends' same
      cases (IsPlain.string value).alike rightPlain same
      rcases quote_append_inj same with ⟨text, back⟩
      exact ⟨congrArg Json.string text, back⟩
  | @sequence items itemsPlain ih =>
      intro right rightPlain rest rest' ends ends' same
      cases (IsPlain.sequence itemsPlain).alike rightPlain same
      cases rightPlain with
      | sequence itemsPlain' =>
          simp only [toList_compact_sequence] at same
          rcases intercalate_append_inj (by decide) (by decide)
            (fun item member item' member' => ih item member (itemsPlain' item' member'))
            (fun item member => (member.elim (itemsPlain item) (itemsPlain' item)).not_closing)
            (List.cons.inj same).2 with ⟨rfl, back⟩
          exact ⟨rfl, back⟩
  | @map fields fieldsPlain ih =>
      intro right rightPlain rest rest' ends ends' same
      cases (IsPlain.map fieldsPlain).alike rightPlain same
      cases rightPlain with
      | map fieldsPlain' =>
          simp only [toList_compact_map] at same
          rcases intercalate_append_inj (by decide) (by decide)
            (fun field member field' member' =>
              separates_field (ih field member (fieldsPlain' field' member')))
            (fun field _ => fieldText_append_ne field)
            (List.cons.inj same).2 with ⟨rfl, back⟩
          exact ⟨rfl, back⟩

/-- No two values have the same text. -/
theorem IsPlain.eq_of_compact_eq {left right : Json} (leftPlain : IsPlain left)
    (rightPlain : IsPlain right) (same : left.compact = right.compact) : left = right :=
  (leftPlain.separates rightPlain endsNumber_nil endsNumber_nil
    (congrArg (fun text => text.toList ++ []) same)).1

end Json

end Announce
