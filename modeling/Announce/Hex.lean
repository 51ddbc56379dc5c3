import Announce.Bytes

/-!
# Hexadecimal text

Octets are written as two lowercase digits each.  Reading accepts both cases
and works on the UTF-8 octets of a text, so that a position in an error counts
octets and a character outside ASCII is reported by its first octet.
-/

namespace Announce.Hex

/-- The lowercase digit of a number below sixteen. -/
def digit (value : Nat) : Char :=
  if value < 10 then Char.ofNat (48 + value) else Char.ofNat (87 + value)

/-- The two digits of an octet, high half first. -/
def ofByte (octet : UInt8) : List Char :=
  [digit (octet.toNat / 16), digit (octet.toNat % 16)]

/-- The lowercase digits of a string of octets. -/
def encode (octets : Bytes) : String :=
  String.ofList (octets.flatMap ofByte)

/-- The value of an octet that is an ASCII digit, in either case. -/
def digitValue? (octet : UInt8) : Option Nat :=
  let code := octet.toNat
  if 48 ≤ code ∧ code ≤ 57 then some (code - 48)
  else if 65 ≤ code ∧ code ≤ 70 then some (code - 55)
  else if 97 ≤ code ∧ code ≤ 102 then some (code - 87)
  else none

/-- The octet with the given high and low halves. -/
def join (high low : Nat) : UInt8 :=
  UInt8.ofNat (16 * high + low)

/-- Why a text is not a string of octets. -/
inductive Error where
  /-- The number of UTF-8 octets is odd. -/
  | oddLength
  /-- The octet at `position` is not a digit. -/
  | notDigit (octet : UInt8) (position : Nat)
deriving DecidableEq, Repr

/-- Read digit pairs, the first of which stands at `position`. -/
def decodePairs (position : Nat) : Bytes → Except Error Bytes
  | [] => .ok []
  | [_] => .error .oddLength
  | high :: low :: rest =>
      match digitValue? high, digitValue? low with
      | some highValue, some lowValue =>
          (decodePairs (position + 2) rest).map (join highValue lowValue :: ·)
      | none, _ => .error (.notDigit high position)
      | some _, none => .error (.notDigit low (position + 1))

/-- Read a text as digit pairs.  An odd length is reported before any octet
that is not a digit. -/
def decode (text : String) : Except Error Bytes :=
  let octets := Bytes.ofText text
  if octets.length % 2 = 1 then .error .oddLength else decodePairs 0 octets

end Announce.Hex
