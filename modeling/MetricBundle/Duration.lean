/-!
# Spans of time

A span of time, and the reading of a clock, is a number of nanoseconds. The seconds of a span are
counted in 64 bits, which bounds the spans that can be written down (`Duration.limit`). So are those
of a clock, one half of whose readings lies before its origin.
-/

namespace MetricBundle.Duration

/-- The nanoseconds of a second. -/
def nanosPerSecond : Nat := 1000000000

/-- A span of whole seconds and nanoseconds. -/
def of (seconds nanos : Nat) : Nat := seconds * nanosPerSecond + nanos

/-- The whole seconds of a span. -/
def seconds (d : Nat) : Nat := d / nanosPerSecond

/-- The nanoseconds of a span beyond its whole seconds. -/
def subsecond (d : Nat) : Nat := d % nanosPerSecond

/-- Every span is shorter than this: its seconds fit 64 bits. -/
def limit : Nat := 0x10000000000000000 * nanosPerSecond

/-- Every reading of the clock is below this: its seconds fit 64 bits. -/
def clockLimit : Nat := 0x10000000000000000 * nanosPerSecond

/-- The reading of the clock at its origin, in the middle of its range. -/
def clockOrigin : Nat := 0x8000000000000000 * nanosPerSecond

/-- The digits of a fraction of `10 ^ places`, without the zeros at the end. -/
def fractionDigits (places fraction : Nat) : List Char :=
  let digits := Nat.toDigits 10 fraction
  let padded := List.replicate (places - digits.length) '0' ++ digits
  (padded.reverse.dropWhile (· == '0')).reverse

/-- A count of units that have `10 ^ places` nanoseconds each. -/
def inUnits (d : Nat) (places : Nat) (unit : String) : String :=
  let digits := fractionDigits places (d % Nat.pow 10 places)
  let fraction := if digits.isEmpty then "" else String.ofList ('.' :: digits)
  toString (d / Nat.pow 10 places) ++ fraction ++ unit

/-- The text of a span, in the largest of seconds, milliseconds, microseconds and nanoseconds of
which it has at least one. -/
def text (d : Nat) : String :=
  if 1000000000 ≤ d then inUnits d 9 "s"
  else if 1000000 ≤ d then inUnits d 6 "ms"
  else if 1000 ≤ d then inUnits d 3 "µs"
  else inUnits d 0 "ns"

theorem of_seconds_subsecond (d : Nat) : of (seconds d) (subsecond d) = d := by
  simp only [of, seconds, subsecond, nanosPerSecond]
  omega

end MetricBundle.Duration
