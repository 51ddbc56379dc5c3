/-!
# Shortest decimal text of a double

A double is written with the fewest digits that read back as the same double,
and of those with the digits nearest to it.  Everything is decided in exact
arithmetic on natural numbers.
-/

namespace Announce.Decimal

/-- A positive rational number. -/
structure Ratio where
  numerator : Nat
  denominator : Nat
deriving DecidableEq, Repr

/-- The number of fractions that a double can have with one exponent. -/
def fractionCount : Nat := Nat.pow 2 52

/-- The number of exponent fields of a double. -/
def exponentCount : Nat := Nat.pow 2 11

/-- The magnitude `significand · 2 ^ exponent` of a finite double. -/
structure Magnitude where
  significand : Nat
  exponent : Int
  /-- Whether the double below is only half as far away as the one above. -/
  narrowBelow : Bool
deriving DecidableEq, Repr

/-- The magnitude with the given exponent and fraction bits. -/
def Magnitude.ofFields (exponentField fraction : Nat) : Magnitude :=
  if exponentField = 0 then
    ⟨fraction, -1074, false⟩
  else
    ⟨fraction + fractionCount, (exponentField : Int) - 1075,
      fraction == 0 && 1 < exponentField⟩

/-- A quarter of the distance to the double above. -/
def Magnitude.quarterStep (magnitude : Magnitude) : Ratio :=
  match magnitude.exponent - 2 with
  | .ofNat power => ⟨Nat.pow 2 power, 1⟩
  | .negSucc power => ⟨1, Nat.pow 2 (power + 1)⟩

/-- The numbers that round to one double, in units of `1 / scale`. -/
structure Interval where
  low : Nat
  value : Nat
  high : Nat
  scale : Nat
  /-- Whether the ends round to the double as well. -/
  closed : Bool
deriving DecidableEq, Repr

/-- The numbers that round to a magnitude, after division by `10 ^ power`. -/
def Magnitude.interval (magnitude : Magnitude) (power : Int) : Interval :=
  let unit := magnitude.quarterStep
  let (factor, divisor) : Nat × Nat :=
    match power with
    | .ofNat power => (1, Nat.pow 10 power)
    | .negSucc power => (Nat.pow 10 (power + 1), 1)
  let quarter := unit.numerator * factor
  let center := 4 * magnitude.significand
  let below := if magnitude.narrowBelow then 1 else 2
  { low := (center - below) * quarter
    value := center * quarter
    high := (center + 2) * quarter
    scale := unit.denominator * divisor
    closed := magnitude.significand % 2 == 0 }

/-- Whether a whole number reads back as the double. -/
def Interval.contains (interval : Interval) (number : Nat) : Bool :=
  let scaled := number * interval.scale
  if interval.closed then
    interval.low ≤ scaled && scaled ≤ interval.high
  else
    interval.low < scaled && scaled < interval.high

/-- The nearest whole number that reads back, if a neighbour of the value does;
of two that are equally near, the even one. -/
def Interval.nearest? (interval : Interval) : Option Nat :=
  let floor := interval.value / interval.scale
  let below := interval.value - floor * interval.scale
  let above := (floor + 1) * interval.scale - interval.value
  match interval.contains floor, interval.contains (floor + 1) with
  | true, true =>
      some (if below < above ∨ (below = above ∧ floor % 2 = 0) then floor else floor + 1)
  | true, false => some floor
  | false, true => some (floor + 1)
  | false, false => none

/-- The power of ten of the first digit. -/
def Magnitude.leadingPower (magnitude : Magnitude) : Int :=
  let powers := (List.range 633).map fun (index : Nat) => (index : Int) - 324
  let isBelow (power : Int) : Bool :=
    let interval := magnitude.interval (power + 1)
    interval.value < interval.scale
  (powers.find? isBelow).getD 308

/-- The shortest digits of a magnitude and the power of ten of the last one.  The
first digit rounds up to ten just below a power of ten, and ten is one on the
next grid. -/
def Magnitude.shortest (magnitude : Magnitude) : Nat × Int :=
  let leading := magnitude.leadingPower
  let grids := (List.range 17).map fun (index : Nat) => leading - (index : Int)
  let hit := grids.findSome? fun power =>
    (magnitude.interval power).nearest?.map fun digits =>
      if digits = 10 then (1, power + 1) else (digits, power)
  hit.getD (0, 0)

/-- Which numbers are written without an exponent, and how an exponent is
written.  A number is counted by the place of its point: the digits in front of
it, or minus the zeros behind it. -/
structure Style where
  /-- The last place of the point without an exponent. -/
  maxPoint : Int
  /-- The first place of the point without an exponent. -/
  minPoint : Int
  /-- What stands in front of an exponent that is not negative. -/
  plus : String
deriving DecidableEq, Repr

/-- Write an exponent with its mark. -/
def writeExponent (style : Style) (exponent : Int) : String :=
  "e" ++ (if 0 ≤ exponent then style.plus else "") ++ toString exponent

/-- Write `digits · 10 ^ power`, with at least one digit on either side of the
point unless there is an exponent. -/
def write (style : Style) (digits : Nat) (power : Int) : String :=
  let text := (toString digits).toList
  let point : Int := text.length + power
  let zeros (count : Int) := List.replicate count.toNat '0'
  if style.minPoint ≤ point ∧ point ≤ style.maxPoint then
    if 0 ≤ power then
      String.ofList (text ++ zeros power ++ ['.', '0'])
    else
      let padded := zeros (1 - point) ++ text
      let whole := max 1 point.toNat
      String.ofList (padded.take whole ++ '.' :: padded.drop whole)
  else
    let fraction := if text.length = 1 then [] else '.' :: text.drop 1
    String.ofList (text.take 1 ++ fraction) ++ writeExponent style (point - 1)

/-- The shortest text of a finite double. -/
def ofFloat (style : Style) (value : Float) : String :=
  let bits := value.toBits.toNat
  let head := bits / fractionCount
  let magnitude := Magnitude.ofFields (head % exponentCount) (bits % fractionCount)
  let sign := if head / exponentCount = 1 then "-" else ""
  if magnitude.significand = 0 then
    sign ++ "0.0"
  else
    let (digits, power) := magnitude.shortest
    sign ++ write style digits power

end Announce.Decimal
