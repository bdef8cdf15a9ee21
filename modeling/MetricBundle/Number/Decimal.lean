import MetricBundle.Number

/-!
# Decimal text of a number

A number is written with the fewest significant digits that read back to it, and of those the
nearest; an exact tie goes away from zero. The text is positional whatever the exponent is, and a
whole number has no fraction.

`Decimal.shortest` finds the digits. The reals that read back to a number form an interval around
it, given here by exact integers over a common denominator. For one, two, … digits the two
neighbours of the number on that decimal grid are tested; the first grid with a neighbour in the
interval wins.
-/

namespace MetricBundle

/-- The decimal `digits * 10 ^ exponent`. -/
structure Decimal where
  digits : Nat
  exponent : Int
deriving DecidableEq

namespace Decimal

/-- The rational `numerator / denominator` of a positive magnitude, with the ends of the interval of
reals that read back to it over the same denominator. -/
structure Interval where
  low : Nat
  value : Nat
  high : Nat
  denominator : Nat
  /-- The ends themselves read back to the number. -/
  closed : Bool

/-- The interval of `m * 2 ^ q`. Below the least significand the neighbours are twice as near, and
the ends belong to an even significand. -/
def Interval.of (m : Nat) (q : Int) : Interval :=
  let scale := Nat.pow 2 (q - 2).toNat
  { low := (4 * m - if m = Number.leastSignificand then 1 else 2) * scale
    value := 4 * m * scale
    high := (4 * m + 2) * scale
    denominator := Nat.pow 2 (2 - q).toNat
    closed := m % 2 == 0 }

/-- `digits * 10 ^ exponent` lies in the interval. -/
def Interval.contains (i : Interval) (d : Decimal) : Bool :=
  let x := d.digits * Nat.pow 10 d.exponent.toNat * i.denominator
  let unit := Nat.pow 10 (-d.exponent).toNat
  if i.closed then i.low * unit ≤ x && x ≤ i.high * unit
  else i.low * unit < x && x < i.high * unit

/-- Twice the distance of a value above a grid point is at least one step of the grid. -/
def Interval.nearerAbove (i : Interval) (d : Decimal) : Bool :=
  let x := d.digits * Nat.pow 10 d.exponent.toNat * i.denominator
  let step := Nat.pow 10 d.exponent.toNat * i.denominator
  let unit := Nat.pow 10 (-d.exponent).toNat
  step ≤ 2 * (i.value * unit - x)

/-- The number of digits of the whole part of `value / denominator`, counted below zero for leading
zeros of the fraction: the value lies between the power of ten with this exponent and the one below
it. Every positive number is above `10 ^ (-340)`. -/
def Interval.places (i : Interval) : Int :=
  Int.ofNat (Nat.toDigits 10 (i.value * Nat.pow 10 340 / i.denominator)).length - 340

/-- The grid point just below the value, when the value is given `count` digits. -/
def Interval.below (i : Interval) (exponent : Int) : Decimal :=
  ⟨i.value * Nat.pow 10 (-exponent).toNat / (i.denominator * Nat.pow 10 exponent.toNat), exponent⟩

/-- The nearer of the two grid points next to the value, if one is in the interval. -/
def Interval.onGrid? (i : Interval) (exponent : Int) : Option Decimal :=
  let d := i.below exponent
  let u : Decimal := ⟨d.digits + 1, exponent⟩
  match i.contains d, i.contains u with
  | true, true => some (if i.nearerAbove d then u else d)
  | true, false => some d
  | false, true => some u
  | false, false => none

/-- The first of the grids with the given exponents that has a point in the interval. -/
def Interval.firstGrid (i : Interval) : List Int → Decimal
  | [] => ⟨0, 0⟩
  | exponent :: coarser =>
    match i.onGrid? exponent with
    | some d => d
    | none => i.firstGrid coarser

/-- The decimal with the fewest digits that reads back to `m * 2 ^ q`, for a positive `m`. -/
def shortest (m : Nat) (q : Int) : Decimal :=
  let i := Interval.of m q
  i.firstGrid ((List.range 17).map fun n => i.places - Int.ofNat (n + 1))

/-- The same value without zeros at the end of the digits. -/
def trimZeros (d : Decimal) : Decimal :=
  if h : d.digits ≠ 0 ∧ d.digits % 10 = 0 then trimZeros ⟨d.digits / 10, d.exponent + 1⟩ else d
termination_by d.digits
decreasing_by omega

/-- Positional text: zeros stand in for the exponent on either side of the point. -/
def positional (d : Decimal) : List Char :=
  let digits := Nat.toDigits 10 d.digits
  if 0 ≤ d.exponent then digits ++ List.replicate d.exponent.toNat '0'
  else
    let places := (-d.exponent).toNat
    if places < digits.length then
      digits.take (digits.length - places) ++ '.' :: digits.drop (digits.length - places)
    else
      '0' :: '.' :: List.replicate (places - digits.length) '0' ++ digits

end Decimal

namespace Number

/-- The text of a magnitude. -/
def magnitudeText (x : Number) : List Char :=
  if x.isInfinite then "inf".toList
  else
    let (m, q) := x.decode
    if m = 0 then ['0'] else (Decimal.shortest m q).trimZeros.positional

/-- The decimal text of a number. A negative zero keeps its sign; what is not a number has none. -/
def text (x : Number) : String :=
  if x.isNaN then "NaN"
  else if x.isNegative then String.ofList ('-' :: x.magnitudeText)
  else String.ofList x.magnitudeText

end Number

end MetricBundle
