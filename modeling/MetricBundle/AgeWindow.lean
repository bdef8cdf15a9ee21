import MetricBundle.Duration
import MetricBundle.Number

/-!
# Age windows

A summary reports on its latest samples. The window of these consists of several streams, each of
which gets every sample from its beginning on. After each `span` the oldest stream is emptied and
becomes the youngest one, so that the streams begin one span apart; what is reported is the oldest
stream. A stream holds at most `capacity` samples and loses its first one to make room. The sum and
the count of all samples ever recorded are not part of the window and only grow.

The streams stand in a ring, where the head is the oldest one and those after it are ever younger.
Emptying the head makes it the youngest, and the next stream becomes the head.

Moving the end of a span past the range of the clock fails, and leaves the window behind as it was
at that moment: an operation then gives it as the error.
-/

namespace MetricBundle

/-- The length of a window in nanoseconds, the number of its streams, and how much a stream
holds. -/
structure WindowShape where
  maxAge : Nat
  ageBuckets : Nat
  capacity : Nat
  ageBuckets_pos : 0 < ageBuckets
  capacity_pos : 0 < capacity
deriving DecidableEq

/-- The time between the beginnings of two streams, which is never zero. -/
def WindowShape.span (s : WindowShape) : Nat := max (s.maxAge / s.ageBuckets) 1

theorem WindowShape.span_pos (s : WindowShape) : 0 < s.span := by
  simp only [span]
  omega

/-- The samples of a stream, the last one first, and how many they are. -/
structure SampleQueue where
  recent : List Number := []
  size : Nat := 0
  length_recent : recent.length = size := by rfl
deriving DecidableEq

namespace SampleQueue

def empty : SampleQueue := {}

/-- The samples in order. -/
def samples (q : SampleQueue) : List Number := q.recent.reverse

/-- The queue without its first sample, if it has one. -/
def dropFirst (q : SampleQueue) : SampleQueue where
  recent := q.recent.dropLast
  size := q.size - 1
  length_recent := by rw [List.length_dropLast, q.length_recent]

def append (sample : Number) (q : SampleQueue) : SampleQueue where
  recent := sample :: q.recent
  size := q.size + 1
  length_recent := by rw [List.length_cons, q.length_recent]

/-- The queue with one more sample. A full one loses its first sample to make room. -/
def push (capacity : Nat) (sample : Number) (q : SampleQueue) : SampleQueue :=
  (if q.size = capacity then q.dropFirst else q).append sample

end SampleQueue

/-- A window at some moment. -/
structure AgeWindow where
  shape : WindowShape
  streams : List SampleQueue
  /-- The place of the oldest stream. -/
  head : Nat
  /-- When the oldest stream is to be emptied. -/
  expiry : Nat
  /-- The sum of all samples. -/
  sum : Number := Number.zero
  /-- The number of all samples. -/
  count : Nat := 0
  length_streams : streams.length = shape.ageBuckets
  head_lt : head < shape.ageBuckets
deriving DecidableEq

namespace AgeWindow

/-- A window that begins now. -/
def fresh (shape : WindowShape) (now : Nat) : AgeWindow where
  shape := shape
  streams := List.replicate shape.ageBuckets .empty
  head := 0
  expiry := now + shape.span
  length_streams := List.length_replicate
  head_lt := shape.ageBuckets_pos

/-- A window that begins now, unless its first span ends out of the clock's range. -/
def start? (shape : WindowShape) (now : Nat) : Option AgeWindow :=
  if now + shape.span < Duration.clockLimit then some (fresh shape now) else none

/-- The place that is so many places after the head. -/
def place (w : AgeWindow) (offset : Nat) : Nat := (w.head + offset) % w.shape.ageBuckets

/-- The oldest stream emptied, and the next one at the head. -/
def turned (w : AgeWindow) : AgeWindow :=
  { w with
    streams := w.streams.set w.head .empty
    head := w.place 1
    length_streams := by rw [List.length_set, w.length_streams]
    head_lt := Nat.mod_lt _ w.shape.ageBuckets_pos }

/-- Every stream emptied. -/
def cleared (w : AgeWindow) : AgeWindow :=
  { w with
    streams := w.streams.map fun _ => .empty
    length_streams := by rw [List.length_map, w.length_streams] }

/-- Sets when the oldest stream is to be emptied. -/
def expireAt (w : AgeWindow) (time : Nat) : Except AgeWindow AgeWindow :=
  if time < Duration.clockLimit then .ok { w with expiry := time } else .error w

/-- Turns the window once for each span that has ended. -/
def turnUntil (now : Nat) (w : AgeWindow) : Except AgeWindow AgeWindow :=
  if now < w.expiry then .ok w
  else if w.expiry + w.shape.span < Duration.clockLimit then
    turnUntil now { w.turned with expiry := w.expiry + w.shape.span }
  else .error w.turned
termination_by now + 1 - w.expiry
decreasing_by
  have := w.shape.span_pos
  omega

/-- Brings the window up to the present. After a break as long as the window nothing is left of it,
and a new span begins. -/
def rotate (now : Nat) (w : AgeWindow) : Except AgeWindow AgeWindow :=
  if now < w.expiry then .ok w
  else if w.shape.maxAge ≤ now - w.expiry then w.cleared.expireAt (now + w.shape.span)
  else turnUntil now w

/-- Adds a sample to every stream. -/
def record (sample : Number) (w : AgeWindow) : AgeWindow :=
  { w with
    streams := w.streams.map (.push w.shape.capacity sample)
    sum := w.sum.add sample
    count := w.count + 1
    length_streams := by rw [List.length_map, w.length_streams] }

/-- Records a sample at the present time. -/
def observe (now : Nat) (sample : Number) (w : AgeWindow) : Except AgeWindow AgeWindow :=
  (w.rotate now).map (record sample)

/-- The samples that are reported. -/
def reported (w : AgeWindow) : List Number :=
  (w.streams.get ⟨w.head, by rw [w.length_streams]; exact w.head_lt⟩).samples

/-- The sample of an ordered list that a quantile stands at: the first one that is no less than the
given share of the samples. Without samples it is no number. -/
def rank (ordered : List Number) (quantile : Number) : Number :=
  let place := (quantile.mul (Number.ofNat ordered.length)).ceilCount - 1
  ordered.getD (min place (ordered.length - 1)) Number.notANumber

/-- The reported samples in order. -/
def ordered (w : AgeWindow) : List Number := w.reported.mergeSort Number.totalLE

/-- The values of the window's quantiles, each with its quantile. -/
def quantiles (w : AgeWindow) (objectives : List (Number × Number)) : List (Number × Number) :=
  let ordered := w.ordered
  objectives.map fun objective => (objective.1, rank ordered objective.1)

end AgeWindow

end MetricBundle
