import Announce.Hex
import Announce.Text.Lowercase
import Announce.Text.Quoted

/-!
# Peer identifiers

A peer is named by eight bytes, written as sixteen lowercase hexadecimal
digits.  Two ways lead from a text to an identifier: the strict one accepts
nothing but sixteen digits, and the tolerant one makes an identifier of every
text.
-/

namespace Announce

/-- The identifier of a mesh node. -/
structure PeerId where
  bytes : Bytes
  length_bytes : bytes.length = 8
deriving DecidableEq, Repr

namespace PeerId

/-- The bytes of an identifier. -/
def size : Nat := 8

/-- The digits of an identifier. -/
def hexSize : Nat := 16

@[ext] theorem ext {left right : PeerId} (bytes : left.bytes = right.bytes) :
    left = right := by
  cases left
  cases right
  simp_all

/-- Cut or fill up with zeros to the size of an identifier. -/
def ofPadded (octets : Bytes) : PeerId :=
  ⟨(octets.take 8).rightpad 8 0, by rw [List.length_rightpad, List.length_take]; omega⟩

/-- The identifier of eight zeros. -/
def zero : PeerId :=
  ofPadded []

/-- The sixteen lowercase digits of an identifier. -/
def toHex (id : PeerId) : String :=
  Hex.encode id.bytes

/-- The lowercase numeral of an octet, with a zero in front of a single digit. -/
def octetNumeral (octet : UInt8) : String :=
  String.ofList ((Text.hexNumeral octet.toNat).toList.leftpad 2 '0')

/-- An identifier as it is shown: the numerals of its bytes. -/
def display (id : PeerId) : String :=
  String.join (id.bytes.map octetNumeral)

instance : ToString PeerId := ⟨display⟩

/-- An identifier as diagnostics name it. -/
def describe (id : PeerId) : String :=
  "PeerId(" ++ id.display ++ ")"

/-- Identifiers are ordered byte by byte from the front. -/
instance : LT PeerId := ⟨fun left right => left.bytes < right.bytes⟩

instance : LE PeerId := ⟨fun left right => left.bytes ≤ right.bytes⟩

instance (left right : PeerId) : Decidable (left < right) :=
  inferInstanceAs (Decidable (left.bytes < right.bytes))

instance (left right : PeerId) : Decidable (left ≤ right) :=
  inferInstanceAs (Decidable (left.bytes ≤ right.bytes))

/-- The byte that two characters write; zero if they are not both digits. -/
def pairByte (high low : Char) : UInt8 :=
  match Hex.decode (String.ofList [high, low]) with
  | .ok [octet] => octet
  | _ => 0

/-- The bytes that pairs of characters write.  A last character without a
partner is left out. -/
def pairBytes : List Char → Bytes
  | high :: low :: rest => pairByte high low :: pairBytes rest
  | _ => []

/-- The identifier of an arbitrary text: of the first sixteen characters of its
lowercase form every pair is a byte, and missing bytes are zero. -/
def ofText (text : String) : PeerId :=
  ofPadded (pairBytes ((Text.lowercase text.toList).take hexSize))

/-- A text that is not the strict form of an identifier. -/
structure Malformed where
  text : String
deriving DecidableEq, Repr

/-- The message that a malformed identifier is reported with. -/
def Malformed.message (malformed : Malformed) : String :=
  "invalid peer id: " ++ Text.quoteText malformed.text

/-- Read sixteen digits, in either case, and nothing else. -/
def parse (text : String) : Except Malformed PeerId :=
  match Hex.decode text with
  | .ok octets =>
      if full : octets.length = 8 then .ok ⟨octets, full⟩ else .error ⟨text⟩
  | .error _ => .error ⟨text⟩

/-- Put identifiers in ascending order. -/
def sort (ids : List PeerId) : List PeerId :=
  ids.mergeSort fun left right => left ≤ right

end PeerId

end Announce
