import MetricBundle.Number.Reader

/-!
# Numeric types

A callback may give whole numbers of a certain width or floating-point numbers of either precision.
They all become a `Number`, the nearest one where they are not one already.
-/

namespace MetricBundle

/-- A type of numbers that a callback can give. -/
inductive NumericType where
  | unsigned (bits : Nat)
  | signed (bits : Nat)
  /-- Binary32. -/
  | single
  /-- Binary64. -/
  | double
deriving DecidableEq

namespace Number

/-- The number nearest to a whole number. -/
def ofInt (n : Int) : Number := if n < 0 then neg (ofNat n.natAbs) else ofNat n.natAbs

/-- The number with the value of a `Float32`. -/
def ofFloat32 (x : Float32) : Number := ofFloat x.toFloat

end Number

namespace NumericType

/-- The bounds of a type of whole numbers: the least number and the first one that is too large. -/
def bounds : NumericType → Option (Int × Int)
  | .unsigned bits => some (0, Int.ofNat (Nat.pow 2 bits))
  | .signed bits =>
    let half := Int.ofNat (Nat.pow 2 (bits - 1))
    some (-half, half)
  | .single | .double => none

/-- A type without negative numbers has no minus sign either. -/
def hasMinus : NumericType → Bool
  | .unsigned _ => false
  | _ => true

/-- The whole number that a text denotes. -/
def readInt (hasMinus : Bool) (cs : List Char) : Option Int :=
  let (negative, digits) :=
    match cs with
    | '-' :: ds => if hasMinus then (true, ds) else (false, cs)
    | '+' :: ds => (false, ds)
    | ds => (false, ds)
  if digits.isEmpty || !digits.all isDigit then none
  else
    let n := Int.ofNat (digitsValue digits)
    some (if negative then -n else n)

/-- The binary32 value nearest to `mantissa * 10 ^ exponent`, as a number. -/
def singleOfDecimal (mantissa : Nat) (exponent : Int) : Number :=
  let leading := exponent + Int.ofNat (Nat.toDigits 10 mantissa).length
  if mantissa = 0 ∨ leading < -100 then Number.zero
  else if 100 < leading then Number.ofMagnitude false Number.infiniteMagnitude
  else if exponent < 0 then
    Number.ofFloat32 (Float32.ofScientific mantissa true (-exponent).toNat)
  else Number.ofFloat32 (Float32.ofScientific mantissa false exponent.toNat)

/-- The number that a text denotes as one of the type. -/
def read (type : NumericType) (cs : List Char) : Option Number :=
  match type, type.bounds with
  | .single, _ => (Number.readWith singleOfDecimal cs).toOption
  | .double, _ => (Number.read cs).toOption
  | _, none => none
  | _, some (least, limit) =>
    match readInt type.hasMinus cs with
    | some n => if least ≤ n ∧ n < limit then some (Number.ofInt n) else none
    | none => none

end NumericType

end MetricBundle
