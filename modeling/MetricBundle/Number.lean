/-!
# The numbers that metrics hold

A `Number` is a binary64 value given by its bits, so that the sign of a zero and of a value that is
not a number is kept. Two orders matter. The order of *values* (`le`, `lt`, `same`) is the one of
arithmetic: both zeros are the same value, and what is not a number compares with nothing. The
*total* order (`totalKey`) goes by the bits alone: negative zero comes before zero, and what is not
a number comes before or after everything else, by its sign. Both are read off one integer, so
statements about them are statements about integers.

Sums and products are those of core's `Float`.
-/

namespace MetricBundle

/-- A binary64 value: one bit of sign, eleven of exponent, fifty-two of fraction. -/
structure Number where
  bits : UInt64
deriving DecidableEq

namespace Number

/-- The number with the value of a `Float`. -/
def ofFloat (x : Float) : Number := ⟨x.toBits⟩

/-- The value as a `Float`, which has only one value that is not a number. -/
def toFloat (x : Number) : Float := Float.ofBits x.bits

/-- The number nearest to a count. -/
def ofNat (n : Nat) : Number := ofFloat (Float.ofNat n)

/-- The weight of the sign bit: bits below it are the magnitude. -/
def signWeight : Nat := 0x8000000000000000

/-- The sign bit is set. -/
def isNegative (x : Number) : Bool := signWeight ≤ x.bits.toNat

/-- The bits without the sign. -/
def magnitude (x : Number) : Nat := x.bits.toNat % signWeight

/-- The magnitude of infinity; anything larger is not a number. -/
def infiniteMagnitude : Nat := 0x7FF0000000000000

/-- The number with the given magnitude and sign. -/
def ofMagnitude (negative : Bool) (magnitude : Nat) : Number :=
  ⟨UInt64.ofNat (if negative then signWeight + magnitude else magnitude)⟩

def zero : Number := ofMagnitude false 0

def one : Number := ofFloat 1

/-- What results from no samples at all: not a number. -/
def notANumber : Number := ofMagnitude false 0x7FF8000000000000

def isNaN (x : Number) : Bool := infiniteMagnitude < x.magnitude

def isInfinite (x : Number) : Bool := x.magnitude == infiniteMagnitude

/-- Positive infinity. -/
def isTop (x : Number) : Bool := !x.isNegative && x.isInfinite

/-- The number with the other sign. -/
def neg (x : Number) : Number := ofMagnitude (!x.isNegative) x.magnitude

def add (x y : Number) : Number := ofFloat (x.toFloat + y.toFloat)

def mul (x y : Number) : Number := ofFloat (x.toFloat * y.toFloat)

/-! ## Orders -/

/-- The place of a number among the values: both zeros stand at 0. -/
def valueKey (x : Number) : Int := if x.isNegative then -(x.magnitude : Int) else x.magnitude

/-- The place of a number in the total order of all bit patterns. -/
def totalKey (x : Number) : Int := if x.isNegative then -(x.magnitude : Int) - 1 else x.magnitude

/-- The values are in order; false if either is not a number. -/
def le (x y : Number) : Bool := !x.isNaN && !y.isNaN && x.valueKey ≤ y.valueKey

/-- The values are strictly in order; false if either is not a number. -/
def lt (x y : Number) : Bool := !x.isNaN && !y.isNaN && x.valueKey < y.valueKey

/-- The values are equal; false if either is not a number. -/
def same (x y : Number) : Bool := !x.isNaN && !y.isNaN && x.valueKey == y.valueKey

/-- The total order, as a test. -/
def totalLE (x y : Number) : Bool := x.totalKey ≤ y.totalKey

/-! ## Exact value -/

/-- The weight of the exponent's last bit, which is also the least significand of a normal
number. -/
def leastSignificand : Nat := 0x10000000000000

/-- A finite magnitude as `m * 2 ^ q`: the pair of `m` and `q`. -/
def decode (x : Number) : Nat × Int :=
  let exponent : Nat := x.magnitude / leastSignificand
  let fraction : Nat := x.magnitude % leastSignificand
  if exponent = 0 then (fraction, -1074)
  else (leastSignificand + fraction, Int.ofNat exponent - 1075)

/-- The least count that is not below the number. What is negative or not a number counts as 0, and
infinity as the largest 64-bit word. -/
def ceilCount (x : Number) : Nat :=
  if x.isNegative || x.isNaN then 0
  else if x.isInfinite then 0xFFFFFFFFFFFFFFFF
  else
    let (m, q) := x.decode
    if 0 ≤ q then m * Nat.pow 2 q.toNat
    else
      let unit := Nat.pow 2 (-q).toNat
      (m + unit - 1) / unit

theorem eq_of_bits {x y : Number} (h : x.bits.toNat = y.bits.toNat) : x = y := by
  cases x
  cases y
  exact congrArg mk (UInt64.toNat_inj.1 h)

theorem totalKey_injective {x y : Number} (h : x.totalKey = y.totalKey) : x = y := by
  have hx := x.bits.toNat_lt
  have hy := y.bits.toNat_lt
  have hbits : x.bits.toNat = y.bits.toNat := by
    simp only [totalKey, isNegative, magnitude, decide_eq_true_eq] at h
    split at h <;> split at h <;> simp only [signWeight] at * <;> omega
  exact eq_of_bits hbits

/-! ## Equal values -/

theorem same_iff {x y : Number} :
    x.same y = true ↔ x.isNaN = false ∧ y.isNaN = false ∧ x.valueKey = y.valueKey := by
  simp only [same, Bool.and_eq_true, Bool.not_eq_true', beq_iff_eq, and_assoc]

theorem same_comm (x y : Number) : x.same y = y.same x := by
  rw [Bool.eq_iff_iff, same_iff, same_iff]
  exact ⟨fun ⟨hx, hy, h⟩ => ⟨hy, hx, h.symm⟩, fun ⟨hy, hx, h⟩ => ⟨hx, hy, h.symm⟩⟩

theorem same_trans {x y z : Number} (hxy : x.same y = true) (hyz : y.same z = true) :
    x.same z = true := by
  obtain ⟨hx, -, hkey⟩ := same_iff.mp hxy
  obtain ⟨-, hz, hkey'⟩ := same_iff.mp hyz
  exact same_iff.mpr ⟨hx, hz, hkey.trans hkey'⟩

theorem bits_zero : zero.bits.toNat = 0 := by decide

theorem bits_neg_zero : zero.neg.bits.toNat = signWeight := by decide

/-- Only the two zeros are equal without being the same number. -/
theorem eq_or_zeros_of_same {x y : Number} (h : x.same y = true) :
    x = y ∨ (x = zero ∧ y = zero.neg) ∨ (x = zero.neg ∧ y = zero) := by
  obtain ⟨-, -, hkey⟩ := same_iff.mp h
  have hx := x.bits.toNat_lt
  have hy := y.bits.toNat_lt
  have hbits : x.bits.toNat = y.bits.toNat ∨
      (x.bits.toNat = 0 ∧ y.bits.toNat = signWeight) ∨
      (x.bits.toNat = signWeight ∧ y.bits.toNat = 0) := by
    simp only [valueKey, isNegative, magnitude, decide_eq_true_eq] at hkey
    split at hkey <;> split at hkey <;> simp only [signWeight] at * <;> omega
  rcases hbits with h | ⟨hx, hy⟩ | ⟨hx, hy⟩
  · exact .inl (eq_of_bits h)
  · exact .inr (.inl ⟨eq_of_bits (hx.trans bits_zero.symm),
      eq_of_bits (hy.trans bits_neg_zero.symm)⟩)
  · exact .inr (.inr ⟨eq_of_bits (hx.trans bits_neg_zero.symm),
      eq_of_bits (hy.trans bits_zero.symm)⟩)

end Number

end MetricBundle
