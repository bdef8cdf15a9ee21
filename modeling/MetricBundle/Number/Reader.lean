import MetricBundle.Number

/-!
# Reading numbers and counts

The text of a number is an optional sign and then `inf`, `infinity` or `nan` in any case, or decimal
digits with at most one point and an optional exponent. It denotes the nearest binary64 value, an
exact tie going to the even significand; what is too large denotes infinity.

The text of a count is an optional plus sign and decimal digits, and the count has to fit 32 bits.
-/

namespace MetricBundle

/-- The digit that a character denotes. -/
def digit? (c : Char) : Option Nat :=
  if 0x30 ≤ c.toNat ∧ c.toNat ≤ 0x39 then some (c.toNat - 0x30) else none

/-- A decimal digit of ASCII. -/
def isDigit (c : Char) : Bool := (digit? c).isSome

/-- The value of a run of digits; other characters are passed over. -/
def digitsValue (cs : List Char) : Nat :=
  cs.foldl (fun n c => match digit? c with | some d => 10 * n + d | none => n) 0

/-- Why a text is not a number. -/
inductive NumeralFault where
  | blank
  | malformed
deriving DecidableEq

def NumeralFault.message : NumeralFault → String
  | .blank => "cannot parse float from empty string"
  | .malformed => "invalid float literal"

namespace Number

/-- The number nearest to `mantissa * 10 ^ exponent`. Exponents that are out of reach are settled
first, since their powers would not fit any memory. -/
def ofDecimal (mantissa : Nat) (exponent : Int) : Number :=
  let leading := exponent + Int.ofNat (Nat.toDigits 10 mantissa).length
  if mantissa = 0 ∨ leading < -400 then zero
  else if 400 < leading then ofMagnitude false infiniteMagnitude
  else if exponent < 0 then ofFloat (Float.ofScientific mantissa true (-exponent).toNat)
  else ofFloat (Float.ofScientific mantissa false exponent.toNat)

/-- The exponent written at the end of a numeral; nothing there means zero. -/
def readExponent : List Char → Option Int
  | [] => some 0
  | c :: cs =>
    if c = 'e' ∨ c = 'E' then
      let (negative, digits) :=
        match cs with
        | '-' :: ds => (true, ds)
        | '+' :: ds => (false, ds)
        | ds => (false, ds)
      if digits.isEmpty || !digits.all isDigit then none
      else
        let n := Int.ofNat (digitsValue digits)
        some (if negative then -n else n)
    else none

/-- The fraction at the front of the rest of a numeral, and what follows it. -/
def cutFraction : List Char → List Char × List Char
  | '.' :: cs => cs.span isDigit
  | cs => ([], cs)

/-- An unsigned decimal numeral; `nearest` gives the number nearest to a decimal. -/
def readDecimal (nearest : Nat → Int → Number) (cs : List Char) : Option Number :=
  let (whole, rest) := cs.span isDigit
  let (fraction, rest) := cutFraction rest
  if whole.isEmpty && fraction.isEmpty then none
  else
    (readExponent rest).map fun exponent =>
      nearest (digitsValue (whole ++ fraction)) (exponent - Int.ofNat fraction.length)

/-- A numeral without its sign: one of the names in any case, or a decimal. -/
def readUnsigned (nearest : Nat → Int → Number) (cs : List Char) : Option Number :=
  let name := cs.map Char.toLower
  if name = "inf".toList ∨ name = "infinity".toList then some (ofMagnitude false infiniteMagnitude)
  else if name = "nan".toList then some notANumber
  else readDecimal nearest cs

/-- The number that a text denotes, where `nearest` gives the number nearest to a decimal. -/
def readWith (nearest : Nat → Int → Number) : List Char → Except NumeralFault Number
  | [] => .error .blank
  | c :: cs =>
    let number :=
      if c = '-' then (readUnsigned nearest cs).map neg
      else if c = '+' then readUnsigned nearest cs
      else readUnsigned nearest (c :: cs)
    match number with
    | some x => .ok x
    | none => .error .malformed

/-- The number that a text denotes. -/
def read (cs : List Char) : Except NumeralFault Number := readWith ofDecimal cs

end Number

/-- Why a text is not a count. -/
inductive CountFault where
  | badDigit
  | tooLarge
deriving DecidableEq

def CountFault.message : CountFault → String
  | .badDigit => "invalid digit found in string"
  | .tooLarge => "number too large to fit in target type"

/-- Reads digits onto a count, stopping at the first that is none or makes the count too large. -/
def readDigits (limit : Nat) : Nat → List Char → Except CountFault Nat
  | n, [] => .ok n
  | n, c :: cs =>
    match digit? c with
    | none => .error .badDigit
    | some d => if limit < 10 * n + d then .error .tooLarge else readDigits limit (10 * n + d) cs

/-- The 32-bit count that a text denotes. -/
def readCount (cs : List Char) : Except CountFault Nat :=
  let digits :=
    match cs with
    | '+' :: ds => ds
    | ds => ds
  if digits.isEmpty then .error .badDigit else readDigits 0xFFFFFFFF 0 digits

end MetricBundle
