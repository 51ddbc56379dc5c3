import Announce.Json
import Announce.PeerId

/-!
# Identifiers in JSON

An identifier is written as the string of its digits, and only a string of the
strict form is read as one.
-/

namespace Announce.PeerId

/-- An identifier as a JSON string. -/
def toJson (id : PeerId) : Json :=
  .string id.toHex

/-- Why a JSON value is not an identifier. -/
inductive JsonError where
  /-- The value is not a string. -/
  | notString (found : Json)
  /-- The string is not the strict form of an identifier. -/
  | malformed (cause : Malformed)
deriving Repr

/-- A value of a type that does not fit, as an error message names it. -/
def describeJson : Json → String
  | .null => "null"
  | .boolean value => "boolean `" ++ toString value ++ "`"
  | .integer value => "integer `" ++ toString value ++ "`"
  | .float value => "floating point `" ++ Json.floatText value ++ "`"
  | .string value => "string " ++ Text.quoteText value
  | .sequence _ => "sequence"
  | .map _ => "map"

/-- The message of a value that could not be read. -/
def JsonError.message : JsonError → String
  | .notString found => "invalid type: " ++ describeJson found ++ ", expected a string"
  | .malformed cause => cause.message

/-- Read an identifier from a JSON value. -/
def ofJson : Json → Except JsonError PeerId
  | .string text => (parse text).mapError .malformed
  | other => .error (.notString other)

end Announce.PeerId
