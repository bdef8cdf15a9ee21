import MetricBundle.Descriptor
import MetricBundle.Meter

/-!
# Blueprints

What is asked of a factory is a `Request`: the options of a metric, and label names if it is to be a
vector. A request that can be met gives a `Blueprint`, with the descriptor under which the metric is
registered, and from a blueprint each series of the metric is started: the only one of a single
metric, or one for each child of a vector.

Summaries treat variable labels among the options differently from the other instruments. A vector
of another instrument has the label names it is given and no others, a summary has both; and a
histogram finds out only when it starts a series that its bounds or its labels are not acceptable.
-/

namespace MetricBundle

/-- What is asked of a factory. -/
structure Request where
  opts : MetricOpts
  /-- The label names of a vector; none for a single metric. -/
  labels : Option (List String) := none
deriving DecidableEq

namespace Request

def shape (r : Request) : Shape := if r.labels.isSome then .vector else .scalar

/-- The variable labels that the metric gets. -/
def variableLabels (r : Request) : List String :=
  match r.opts, r.labels with
  | .summary o, labels => o.common.variableLabels ++ labels.getD []
  | o, none => o.common.variableLabels
  | _, some labels => labels

end Request

/-- Why work on metrics ends. Only the error of a metric is for whoever asked; after any other fault
the work cannot go on. -/
inductive Fault where
  | metric (e : MetricError)
  /-- A time is out of the clock's range. -/
  | clockRange
  /-- A counter is asked to fall. -/
  | counterFall
  /-- A value in the tags of a field overflows. -/
  | tagOverflow
deriving DecidableEq

namespace SummaryOpts

/-- The length of a window that is given none: ten minutes. -/
def defaultMaxAge : Nat := Duration.of 600 0

def defaultAgeBuckets : Nat := 5

def defaultCapacity : Nat := 500

/-- The most streams that a window can have. -/
def maxAgeBuckets : Nat := 1024

/-- The window that the options ask for. -/
def window (o : SummaryOpts) : WindowShape where
  maxAge := if o.maxAge = 0 then defaultMaxAge else o.maxAge
  ageBuckets := if o.ageBuckets = 0 then defaultAgeBuckets else o.ageBuckets
  capacity := if o.bufCap = 0 then defaultCapacity else o.bufCap
  ageBuckets_pos := by
    split
    · decide
    · omega
  capacity_pos := by
    split
    · decide
    · omega

/-- A quantile is a share: at least none, at most all. -/
def isShare (quantile : Number) : Bool := Number.zero.le quantile && quantile.le Number.one

/-- What is wrong with the options of a summary with the given label names, their descriptor
apart. -/
def defect (o : SummaryOpts) (labels : List String) : Option MetricError :=
  match o.objectives.find? fun objective => !isShare objective.1 with
  | some objective => some (.quantileOutOfRange objective.1)
  | none =>
    if maxAgeBuckets < o.window.ageBuckets then
      some (.tooManyAgeBuckets o.window.ageBuckets maxAgeBuckets)
    else if o.window.maxAge < o.window.ageBuckets then
      some (.windowTooShort o.window.maxAge o.window.ageBuckets)
    else if labels.contains quantileLabel || o.common.constLabels.any (·.1 == quantileLabel) then
      some .quantileLabelReserved
    else none

end SummaryOpts

/-- A request that can be met. -/
structure Blueprint where
  opts : MetricOpts
  shape : Shape
  descriptor : Descriptor
deriving DecidableEq

/-- What has been measured under one set of labels. -/
structure Series where
  /-- The labels, ordered by name. -/
  labels : List (String × String)
  meter : Meter
deriving DecidableEq

namespace Blueprint

/-- What is wrong with a request, its descriptor apart. -/
def requestDefect (r : Request) : Option MetricError :=
  match r.opts with
  | .summary o => o.defect (r.labels.getD [])
  | _ => none

/-- The blueprint that meets a request. -/
def of (r : Request) : Except MetricError Blueprint :=
  match requestDefect r with
  | some e => .error e
  | none =>
    (Descriptor.of r.opts.common r.variableLabels).map fun d =>
      { opts := r.opts, shape := r.shape, descriptor := d }

def instrument (b : Blueprint) : Instrument := b.opts.instrument

/-- The labels of the series with the given values for the variable labels. A constant and a
variable label may share a name; then those of a summary have the constant one first. -/
def labelPairs (b : Blueprint) (values : List String) : List (String × String) :=
  let given := b.descriptor.variableLabels.zip values
  let labels :=
    match b.instrument with
    | .summary => b.descriptor.constLabels ++ given
    | _ => given ++ b.descriptor.constLabels
  labels.mergeSort fun p q => decide (p.1 ≤ q.1)

/-- The number of label values that address a series. -/
def arity (b : Blueprint) : Nat := b.descriptor.variableLabels.length

/-- There is a wrong number of label values. -/
def arityDefect (b : Blueprint) (values : List String) : Option MetricError :=
  if values.length = b.arity then none else some (.cardinality b.arity values.length)

/-- The meter of a new series. -/
def newMeter (b : Blueprint) (now : Nat) : Except Fault Meter :=
  match b.opts with
  | .counter _ | .gauge _ => .ok (.value Number.zero)
  | .histogram o =>
    match bucketBounds o.buckets with
    | .ok bounds => .ok (.buckets (BucketCounts.ofBounds bounds))
    | .error e => .error (.metric e)
  | .summary o =>
    match AgeWindow.start? o.window now with
    | some w => .ok (.window o.objectives w)
    | none => .error .clockRange

/-- The label names are such as a series cannot have. -/
def labelDefect (b : Blueprint) : Option MetricError :=
  if b.instrument = .histogram ∧ b.descriptor.hasLabel bucketLabel then some .bucketLabelReserved
  else none

/-- A new series with the given values for the variable labels. -/
def newSeries (b : Blueprint) (values : List String) (now : Nat) : Except Fault Series :=
  match b.labelDefect with
  | some e => .error (.metric e)
  | none =>
    match b.arityDefect values with
    | some e => .error (.metric e)
    | none => (b.newMeter now).map fun meter => { labels := b.labelPairs values, meter }

/-- The series of a single metric, which cannot have variable labels. -/
def onlySeries (b : Blueprint) (now : Nat) : Except Fault Series :=
  if b.instrument = .summary ∧ b.arity ≠ 0 then .error (.metric (.cardinality 0 b.arity))
  else b.newSeries [] now

/-- What the children of a vector are told apart by. Except for summaries it is only the label
values run together. -/
def childKey (b : Blueprint) (values : List String) : List String :=
  match b.instrument with
  | .summary => values
  | _ => [String.join values]

end Blueprint

end MetricBundle
