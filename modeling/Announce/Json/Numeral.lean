import Announce.Json

/-!
# JSON numerals

What number a numeral stands for.  A number is no identifier, but the message
that refuses it shows the number, so a reader of JSON text has to tell integers
from doubles and find the value of either.

A numeral without a point and an exponent is an integer if 64 bits can hold it.
Every other numeral is a double.  Only as many digits as fit into 64 bits count
towards a double; the rest of its whole part shifts the point and the rest of
its fraction is dropped.
-/

namespace Announce.Json

/-- A number as JSON writes it. -/
structure Numeral where
  negative : Bool
  /-- The digits in front of the point. -/
  whole : List Nat
  /-- The digits behind the point, if there is one. -/
  fraction : Option (List Nat)
  /-- The exponent, if there is one. -/
  exponent : Option Int
deriving DecidableEq, Repr

namespace Numeral

/-- The number that the digits in front of the point spell. -/
def natural (numeral : Numeral) : Nat :=
  numeral.whole.foldl (fun value digit => value * 10 + digit) 0

/-- The digits of a double that count, and the power of ten of the last one. -/
structure Digits where
  significand : Nat
  power : Int
deriving DecidableEq, Repr

/-- Append one digit, if the significand still fits into 64 bits. -/
def Digits.push? (digits : Digits) (digit : Nat) : Option Nat :=
  let larger := digits.significand * 10 + digit
  if larger < UInt64.size then some larger else none

/-- Append the digits in front of the point.  From the first that does not fit
they count as zeros. -/
def Digits.pushWhole (digits : Digits) : List Nat → Digits
  | [] => digits
  | digit :: rest =>
      match digits.push? digit with
      | some larger => pushWhole { digits with significand := larger } rest
      | none => { digits with power := digits.power + (rest.length + 1 : Nat) }

/-- Append the digits behind the point, up to the first that does not fit. -/
def Digits.pushFraction (digits : Digits) : List Nat → Digits
  | [] => digits
  | digit :: rest =>
      match digits.push? digit with
      | some larger => pushFraction ⟨larger, digits.power - 1⟩ rest
      | none => digits

/-- The double `10 ^ power`. -/
def powerOfTen (power : Nat) : Float :=
  Float.ofScientific 1 false power

/-- Divide a double by `10 ^ power` in steps that a double can hold. -/
def divideByPower (value : Float) (power : Nat) : Float :=
  if power ≤ 308 then
    value / powerOfTen power
  else if value == 0 then
    value
  else
    divideByPower (value / powerOfTen 308) (power - 308)
termination_by power

/-- The double nearest to the significand, scaled by the power of ten.  There is
none if it is too large. -/
def Digits.toFloat? (digits : Digits) : Option Float :=
  let value := (UInt64.ofNat digits.significand).toFloat
  match digits.power with
  | .ofNat power =>
      if power ≤ 308 then
        let scaled := value * powerOfTen power
        if scaled.isInf then none else some scaled
      else if value == 0 then some value
      else none
  | .negSucc power => some (divideByPower value (power + 1))

/-- The integer that the digits in front of the point spell, if 64 bits hold it with
its sign.  No integer is a zero behind a minus sign. -/
def integer? (numeral : Numeral) : Option Int :=
  if numeral.negative then
    if 0 < numeral.natural ∧ numeral.natural ≤ UInt64.size / 2 then some (-numeral.natural)
    else none
  else if numeral.natural < UInt64.size then some numeral.natural
  else none

/-- The double that a numeral stands for, unless it is too large. -/
def double? (numeral : Numeral) : Option Float :=
  let whole := Digits.pushWhole ⟨0, 0⟩ numeral.whole
  let digits := whole.pushFraction (numeral.fraction.getD [])
  let scaled := { digits with power := digits.power + numeral.exponent.getD 0 }
  scaled.toFloat?.map fun value => if numeral.negative then -value else value

/-- The value of a numeral, or nothing if it is too large for a double. -/
def toJson? (numeral : Numeral) : Option Json :=
  match numeral.fraction, numeral.exponent, numeral.integer? with
  | none, none, some value => some (.integer value)
  | _, _, _ => numeral.double?.map .float

variable {numeral : Numeral} {value : Int}

theorem integer?_eq_some_iff :
    numeral.integer? = some value ↔
      if numeral.negative then
        value = -numeral.natural ∧ value < 0 ∧ -(UInt64.size / 2 : Nat) ≤ value
      else
        value = numeral.natural ∧ value < UInt64.size := by
  rw [integer?]
  cases numeral.negative with
  | true =>
      rw [if_pos rfl, if_pos rfl]
      by_cases held : 0 < numeral.natural ∧ numeral.natural ≤ UInt64.size / 2
      · rw [if_pos held, Option.some.injEq]
        omega
      · rw [if_neg held]
        simp only [reduceCtorEq, false_iff]
        omega
  | false =>
      rw [if_neg Bool.false_ne_true, if_neg Bool.false_ne_true]
      by_cases held : numeral.natural < UInt64.size
      · rw [if_pos held, Option.some.injEq]
        omega
      · rw [if_neg held]
        simp only [reduceCtorEq, false_iff]
        omega

/-- A numeral is read as an integer exactly if it has neither a point nor an exponent and
64 bits hold the integer that it spells: as one without a sign, or as one with a sign
behind a minus sign. -/
theorem toJson?_eq_integer_iff :
    numeral.toJson? = some (.integer value) ↔
      numeral.fraction = none ∧ numeral.exponent = none ∧
        if numeral.negative then
          value = -numeral.natural ∧ value < 0 ∧ -(UInt64.size / 2 : Nat) ≤ value
        else
          value = numeral.natural ∧ value < UInt64.size := by
  have double (float : Option Float) : float.map Json.float ≠ some (.integer value) := by
    cases float <;> simp
  rw [← integer?_eq_some_iff, toJson?]
  split
  · next number fraction exponent integer =>
      rw [fraction, exponent, integer, Option.some.injEq, Json.integer.injEq, Option.some.injEq,
        and_iff_right rfl, and_iff_right rfl]
  · next other =>
      simp only [double, false_iff]
      rintro ⟨fraction, exponent, integer⟩
      exact other _ fraction exponent integer

end Numeral

end Announce.Json
