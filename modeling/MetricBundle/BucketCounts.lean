import MetricBundle.Error
import MetricBundle.Options

/-!
# Bucket counts

A histogram counts its samples in buckets, each with an upper bound. A sample counts in the first
bucket whose bound it does not exceed, and in none if it exceeds them all or is no number. What is
reported of a bucket is the number of samples in it and in those before it.
-/

namespace MetricBundle

/-- The two neighbours in a list of bounds that are not increasing, if there are some. -/
def disorder? : List Number → Option (Number × Number)
  | [] => none
  | [_] => none
  | a :: b :: rest => if b.le a then some (a, b) else disorder? (b :: rest)

/-- The bounds of a histogram that is given these. No bounds stand for the default ones, and
infinity as the last bound is left out, since every histogram has it. -/
def bucketBounds (given : List Number) : Except MetricError (List Number) :=
  let bounds := if given.isEmpty then defaultBuckets else given
  match disorder? bounds with
  | some (a, b) => .error (.bucketsNotIncreasing a b)
  | none => .ok (if bounds.getLast?.any Number.isTop then bounds.dropLast else bounds)

/-- The samples of a histogram. -/
structure BucketCounts where
  /-- Each bound with the number of samples in its bucket. -/
  buckets : List (Number × Nat)
  sum : Number := Number.zero
  count : Nat := 0
deriving DecidableEq

namespace BucketCounts

/-- No samples in buckets with the given bounds. -/
def ofBounds (bounds : List Number) : BucketCounts := { buckets := bounds.map fun b => (b, 0) }

/-- Counts a sample in the first bucket that it fits. -/
def countIn (sample : Number) : List (Number × Nat) → List (Number × Nat)
  | [] => []
  | (bound, n) :: rest =>
    if sample.le bound then (bound, n + 1) :: rest else (bound, n) :: countIn sample rest

/-- Records a sample. -/
def record (sample : Number) (b : BucketCounts) : BucketCounts :=
  { buckets := countIn sample b.buckets, sum := b.sum.add sample, count := b.count + 1 }

/-- Counts added up from the first bucket on, after `before` samples. -/
def accumulate (before : Nat) : List (Number × Nat) → List (Number × Nat)
  | [] => []
  | (bound, n) :: rest => (bound, before + n) :: accumulate (before + n) rest

/-- Each bound with the number of samples up to it. -/
def cumulative (b : BucketCounts) : List (Number × Nat) := accumulate 0 b.buckets

end BucketCounts

end MetricBundle
