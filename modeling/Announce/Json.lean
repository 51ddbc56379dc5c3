import Announce.Decimal.Shortest

/-!
# JSON documents

Reports and log lines are written as compact JSON: no blanks, and fields in the
order in which they were given.
-/

namespace Announce

/-- A JSON value.  The fields of a map keep their order. -/
inductive Json where
  | null
  | boolean (value : Bool)
  | integer (value : Int)
  | float (value : Float)
  | string (value : String)
  | sequence (items : List Json)
  | map (fields : List (String × Json))
deriving Repr, Inhabited

namespace Json

/-- A natural number. -/
def nat (value : Nat) : Json :=
  .integer value

/-- A value that may be missing. -/
def ofOption {α : Type} (write : α → Json) : Option α → Json
  | some value => write value
  | none => .null

/-- Numbers have an exponent from `1e+16` on and below `0.00001`, always with its
sign. -/
def floatStyle : Decimal.Style := ⟨16, -4, "+"⟩

/-- The text of a double. -/
def floatText (value : Float) : String :=
  Decimal.ofFloat floatStyle value

/-- A character inside a JSON string. -/
def escape (character : Char) : String :=
  if character = '"' then "\\\""
  else if character = '\\' then "\\\\"
  else if character = '\x08' then "\\b"
  else if character = '\t' then "\\t"
  else if character = '\n' then "\\n"
  else if character = '\x0c' then "\\f"
  else if character = '\r' then "\\r"
  else if character.toNat < 0x20 then
    String.ofList ("\\u00".toList ++
      [Nat.digitChar (character.toNat / 16), Nat.digitChar (character.toNat % 16)])
  else character.toString

/-- A text as a JSON string. -/
def quote (text : String) : String :=
  "\"" ++ String.join (text.toList.map escape) ++ "\""

mutual

/-- The compact text of a value. -/
def compact : Json → String
  | .null => "null"
  | .boolean true => "true"
  | .boolean false => "false"
  | .integer value => toString value
  | .float value => floatText value
  | .string value => quote value
  | .sequence items => "[" ++ ",".intercalate (compactItems items) ++ "]"
  | .map fields => "\x7b" ++ ",".intercalate (compactFields fields) ++ "\x7d"

/-- The compact texts of the items of a sequence. -/
def compactItems : List Json → List String
  | [] => []
  | item :: items => compact item :: compactItems items

/-- The compact texts of the fields of a map. -/
def compactFields : List (String × Json) → List String
  | [] => []
  | (name, value) :: fields => (quote name ++ ":" ++ compact value) :: compactFields fields

end

end Json

end Announce
