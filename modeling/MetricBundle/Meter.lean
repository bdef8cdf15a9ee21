import MetricBundle.AgeWindow
import MetricBundle.BucketCounts

/-!
# Meters

A meter is what an instrument measures with: a value for counters and gauges, bucket counts for
histograms, an age window for summaries. It is changed by `Change`s, and what it shows is a
`Reading`. A meter with a window has to be brought up to the present before it is read; as with
windows, a step that leaves the clock's range gives the meter as it was left for its error.
-/

namespace MetricBundle

inductive Meter where
  | value (x : Number)
  | buckets (counts : BucketCounts)
  /-- A window with the objectives whose quantiles are reported. -/
  | window (objectives : List (Number × Number)) (window : AgeWindow)
deriving DecidableEq

/-- What can be done to a meter. -/
inductive Change where
  | add (x : Number)
  | set (x : Number)
  | observe (x : Number)
deriving DecidableEq

/-- The change adds something that is not at least nothing, which a counter does not take. -/
def Change.isFall : Change → Bool
  | .add x => !Number.zero.le x
  | _ => false

/-- What a meter shows when it is collected. -/
inductive Reading where
  | value (x : Number)
  /-- Each bound with the number of samples up to it. -/
  | histogram (buckets : List (Number × Nat)) (sum : Number) (count : Nat)
  /-- Each quantile with its value. -/
  | summary (quantiles : List (Number × Number)) (sum : Number) (count : Nat)
deriving DecidableEq

/-- What a handle shows of its meter at any time. -/
inductive Figure where
  | value (x : Number)
  | samples (count : Nat) (sum : Number)
deriving DecidableEq

namespace Meter

/-- What a step on a window does to a meter that has one. -/
def onWindow (step : AgeWindow → Except AgeWindow AgeWindow) : Meter → Except Meter Meter
  | .window objectives w =>
    match step w with
    | .ok w => .ok (.window objectives w)
    | .error w => .error (.window objectives w)
  | m => .ok m

/-- Brings a meter up to the present. -/
def rotate (now : Nat) (m : Meter) : Except Meter Meter := m.onWindow (AgeWindow.rotate now)

/-- Changes a meter; a change that is not for this sort of meter does nothing. -/
def apply (now : Nat) (change : Change) (m : Meter) : Except Meter Meter :=
  match change, m with
  | .add x, .value y => .ok (.value (y.add x))
  | .set x, .value _ => .ok (.value x)
  | .observe x, .buckets counts => .ok (.buckets (counts.record x))
  | .observe x, m => m.onWindow (AgeWindow.observe now x)
  | _, m => .ok m

/-- What a meter that is up to the present shows. -/
def reading : Meter → Reading
  | .value x => .value x
  | .buckets counts => .histogram counts.cumulative counts.sum counts.count
  | .window objectives w => .summary (w.quantiles objectives) w.sum w.count

def figure : Meter → Figure
  | .value x => .value x
  | .buckets counts => .samples counts.count counts.sum
  | .window _ w => .samples w.count w.sum

end Meter

end MetricBundle
