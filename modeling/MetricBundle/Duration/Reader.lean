import MetricBundle.Duration
import MetricBundle.Number.Reader
import MetricBundle.Text.Blank

/-!
# Reading spans of time

The text of a span is a list of quantities, each a decimal number and the name of a unit, such as
`1h 30m` or `1.5s`; the span is their sum. White space may stand between and around quantities, and
also within a number. A lone `0` needs no unit.

A quantity must be exact. Its whole part is counted in nanoseconds for units up to the millisecond
and in seconds for the others; its fraction is counted in nanoseconds for units up to the minute and
in seconds for the others, and a nanosecond has none. Each count fits 64 bits, also when nanoseconds
are added to those of the sum beyond its whole seconds.

The reader takes one character at a time (`Reading.step`). A fault names the byte offset in the text
where it shows.
-/

namespace MetricBundle

/-- Why a text is not a span of time. -/
inductive DurationFault where
  | blank
  | numberExpected (offset : Nat)
  | badCharacter (offset : Nat)
  | unitMissing (whole : Nat)
  | unitUnknown (name : String)
  | inexact
  /-- The nanoseconds of the sum make up one second more than can be counted. Nothing is to be
  reported about that: whoever reads such a text comes to an end. -/
  | overflow
deriving DecidableEq

def DurationFault.message : DurationFault → String
  | .blank => "value was empty"
  | .numberExpected offset => "expected number at " ++ toString offset
  | .badCharacter offset => "invalid character at " ++ toString offset
  | .unitMissing whole =>
    "time unit needed, for example " ++ toString whole ++ "sec or " ++ toString whole ++ "ms"
  | .unitUnknown name =>
    "unknown time unit \"" ++ name ++ "\", supported units: ns, us/µs, ms, sec, min, hours, days, "
      ++ "weeks, months, years (and few variations)"
  | .inexact =>
    "number is too large or cannot be represented without a lack of precision "
      ++ "(values below 1ns are not supported)"
  | .overflow => "overflow"

/-- What the parts of a quantity are counted in. -/
inductive Grain where
  | nanosecond
  | second
deriving DecidableEq

/-- The length of a grain in nanoseconds. -/
def Grain.length : Grain → Nat
  | .nanosecond => 1
  | .second => Duration.of 1 0

/-- The units that a quantity can have. -/
inductive TimeUnit where
  | nanosecond
  | microsecond
  | millisecond
  | second
  | minute
  | hour
  | day
  | week
  | month
  | year
deriving DecidableEq

namespace TimeUnit

def all : List TimeUnit :=
  [.nanosecond, .microsecond, .millisecond, .second, .minute, .hour, .day, .week, .month, .year]

/-- The names of a unit. -/
def names : TimeUnit → List String
  | .nanosecond => ["nanos", "nsec", "ns"]
  | .microsecond => ["usec", "us", "µs"]
  | .millisecond => ["millis", "msec", "ms"]
  | .second => ["seconds", "second", "secs", "sec", "s"]
  | .minute => ["minutes", "minute", "min", "mins", "m"]
  | .hour => ["hours", "hour", "hr", "hrs", "h"]
  | .day => ["days", "day", "d"]
  | .week => ["weeks", "week", "wk", "wks", "w"]
  | .month => ["months", "month", "M"]
  | .year => ["years", "year", "yr", "yrs", "y"]

def ofName? (name : String) : Option TimeUnit := all.find? fun u => u.names.contains name

/-- The length of a unit in nanoseconds. -/
def length : TimeUnit → Nat
  | .nanosecond => 1
  | .microsecond => 1000
  | .millisecond => 1000000
  | .second => Duration.of 1 0
  | .minute => Duration.of 60 0
  | .hour => Duration.of 3600 0
  | .day => Duration.of 86400 0
  | .week => Duration.of 604800 0
  | .month => Duration.of 2630016 0
  | .year => Duration.of 31557600 0

/-- The grain in which the whole part of a quantity is counted. -/
def wholeGrain : TimeUnit → Grain
  | .nanosecond | .microsecond | .millisecond => .nanosecond
  | _ => .second

/-- The grain in which the fraction of a quantity is counted, if it may have one. -/
def fractionGrain? : TimeUnit → Option Grain
  | .nanosecond => none
  | .microsecond | .millisecond | .second | .minute => some .nanosecond
  | _ => some .second

end TimeUnit

/-- A number as it is written: its whole part, and the digits after the point with the power of ten
that they count. -/
structure Quantity where
  whole : Nat
  fraction : Option (Nat × Nat) := none

namespace Quantity

/-- The count fits 64 bits. -/
def fits (n : Nat) : Bool := n ≤ 0xFFFFFFFFFFFFFFFF

/-- Adds a count of grains to a span. Nanoseconds are added to those of the span beyond its whole
seconds; if that makes exactly one second and there is no room for it, the span overflows. -/
def accumulate (sum : Nat) (grain : Grain) (count : Nat) : Except DurationFault Nat :=
  let total := sum + count * grain.length
  let nanos := Duration.subsecond sum + count
  if grain = .nanosecond ∧ fits nanos = false then .error .inexact
  else if total < Duration.limit then .ok total
  else if grain = .nanosecond ∧ nanos = Duration.nanosPerSecond then .error .overflow
  else .error .inexact

/-- Adds a whole number of a unit to a span. -/
def addWhole (whole : Nat) (unit : TimeUnit) (sum : Nat) : Except DurationFault Nat :=
  let count := whole * (unit.length / unit.wholeGrain.length)
  if fits count then accumulate sum unit.wholeGrain count else .error .inexact

/-- Adds a fraction of a unit to a span, if it is a whole number of grains. -/
def addFraction (numerator denominator : Nat) (unit : TimeUnit) (sum : Nat) :
    Except DurationFault Nat :=
  match unit.fractionGrain? with
  | none => .error .inexact
  | some grain =>
    let product := numerator * (unit.length / grain.length)
    if fits product && product % denominator == 0 then accumulate sum grain (product / denominator)
    else .error .inexact

/-- Adds a quantity of a unit to a span. -/
def addTo (q : Quantity) (unit : TimeUnit) (sum : Nat) : Except DurationFault Nat :=
  match addWhole q.whole unit sum, q.fraction with
  | .ok total, some (numerator, denominator) => addFraction numerator denominator unit total
  | result, _ => result

end Quantity

namespace Duration

/-- What the reader is in the middle of. -/
inductive Reading where
  /-- Between quantities; a span needs at least one. -/
  | between (started : Bool)
  /-- In the whole part of a number. -/
  | whole (n : Nat)
  /-- After the point of a number; `mark` is the offset of the point, or of what follows the last
  character taken since. -/
  | fraction (n numerator denominator mark : Nat)
  /-- In the name of a unit. -/
  | unit (q : Quantity) (letters : List Char)

/-- The letters of unit names. -/
def isUnitLetter (c : Char) : Bool := c.isAlpha || c == 'µ'

/-- Ends a quantity: its unit is the name read so far. -/
def Reading.close (q : Quantity) (letters : List Char) (sum : Nat) :
    Except DurationFault Nat :=
  if letters.isEmpty then .error (.unitMissing q.whole)
  else
    match TimeUnit.ofName? (String.ofList letters) with
    | none => .error (.unitUnknown (String.ofList letters))
    | some u => q.addTo u sum

/-- Takes the character at the given offset. -/
def Reading.step (offset : Nat) (c : Char) (sum : Nat) :
    Reading → Except DurationFault (Reading × Nat)
  | .between started =>
    match digit? c with
    | some d => .ok (.whole d, sum)
    | none => if isBlank c then .ok (.between started, sum) else .error (.numberExpected offset)
  | .whole n =>
    match digit? c with
    | some d =>
      if Quantity.fits (10 * n + d) then .ok (.whole (10 * n + d), sum) else .error .inexact
    | none =>
      if isBlank c then .ok (.whole n, sum)
      else if isUnitLetter c then .ok (.unit ⟨n, none⟩ [c], sum)
      else if c = '.' then .ok (.fraction n 0 1 offset, sum)
      else .error (.badCharacter offset)
  | .fraction n numerator denominator mark =>
    match digit? c with
    | some d =>
      if Quantity.fits (10 * denominator) && Quantity.fits (10 * numerator + d) then
        .ok (.fraction n (10 * numerator + d) (10 * denominator) (offset + c.utf8Size), sum)
      else .error .inexact
    | none =>
      if isBlank c then .ok (.fraction n numerator denominator (offset + c.utf8Size), sum)
      else if isUnitLetter c && denominator != 1 then
        .ok (.unit ⟨n, some (numerator, denominator)⟩ [c], sum)
      else .error (.badCharacter mark)
  | .unit q letters =>
    match digit? c with
    | some d => (Reading.close q letters sum).map fun total => (.whole d, total)
    | none =>
      if isBlank c then (Reading.close q letters sum).map fun total => (.between true, total)
      else if isUnitLetter c then .ok (.unit q (letters ++ [c]), sum)
      else .error (.badCharacter offset)

/-- Ends the text. -/
def Reading.finish (sum : Nat) : Reading → Except DurationFault Nat
  | .between started => if started then .ok sum else .error .blank
  | .whole n => Reading.close ⟨n, none⟩ [] sum
  | .fraction n numerator denominator mark =>
    if denominator = 1 then .error (.badCharacter mark)
    else Reading.close ⟨n, some (numerator, denominator)⟩ [] sum
  | .unit q letters => Reading.close q letters sum

/-- Takes the rest of a text from an offset on. -/
def Reading.run (reading : Reading) (sum : Nat) :
    (offset : Nat) → List Char → Except DurationFault Nat
  | _, [] => reading.finish sum
  | offset, c :: cs =>
    match reading.step offset c sum with
    | .error fault => .error fault
    | .ok (next, total) => next.run total (offset + c.utf8Size) cs

/-- The span of time that a text denotes. -/
def read (cs : List Char) : Except DurationFault Nat :=
  if cs = ['0'] then .ok 0 else (Reading.between false).run 0 0 cs

end Duration

end MetricBundle
