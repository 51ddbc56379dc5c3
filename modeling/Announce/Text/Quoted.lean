import Announce.Text.Printable

/-!
# Quoted text

Error messages show the text that they complain about between quotes, with
everything that would not be visible written as an escape.
-/

namespace Announce.Text

/-- The shortest lowercase hexadecimal numeral of a number. -/
def hexNumeral (value : Nat) : String :=
  String.ofList (Nat.toDigits 16 value)

/-- A character inside quotes of the given kind. -/
def quoteInner (mark character : Char) : String :=
  if character = '\x00' then "\\0"
  else if character = '\t' then "\\t"
  else if character = '\r' then "\\r"
  else if character = '\n' then "\\n"
  else if character = '\\' then "\\\\"
  else if character = mark then "\\" ++ mark.toString
  else if isShown character then character.toString
  else "\\u\x7b" ++ hexNumeral character.toNat ++ "\x7d"

/-- A text between double quotes. -/
def quoteText (text : String) : String :=
  "\"" ++ String.join (text.toList.map (quoteInner '"')) ++ "\""

/-- A character between single quotes. -/
def quoteChar (character : Char) : String :=
  "'" ++ quoteInner '\x27' character ++ "'"

end Announce.Text
