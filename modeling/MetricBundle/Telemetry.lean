import MetricBundle.Blueprint
import MetricBundle.Family
import MetricBundle.Metric

/-!
# Telemetry

Everything that has been measured: the series of all metrics, the children of the vectors, the
sources of the callbacks, and the registry, with the clock by which windows move. Handles refer to
it by number, and nothing in it is ever renumbered, so a handle stays good: the series of a child
that was removed from its vector is still there, though no vector leads to it.

Making a metric and registering it are steps of their own. Both either succeed or change nothing.
-/

namespace MetricBundle

/-- A vector: what its children are made from, and the children, each with its key and the number of
its series, in the order in which they were made. -/
structure MetricVector where
  blueprint : Blueprint
  children : List (List String × Nat) := []
deriving DecidableEq

namespace MetricVector

/-- The series of the child with the given label values. -/
def lookup (v : MetricVector) (values : List String) : Option Nat :=
  (v.children.find? fun c => c.1 == v.blueprint.childKey values).map (·.2)

/-- Adds a child. -/
def insert (v : MetricVector) (values : List String) (id : Nat) : MetricVector :=
  { v with children := v.children ++ [(v.blueprint.childKey values, id)] }

/-- Drops the child with the given label values. -/
def erase (v : MetricVector) (values : List String) : MetricVector :=
  { v with children := v.children.filter fun c => c.1 != v.blueprint.childKey values }

/-- Why the child with the given label values cannot be dropped. The number of values is checked for
all instruments but summaries. -/
def eraseDefect (v : MetricVector) (values : List String) : Option MetricError :=
  let miscounted :=
    match v.blueprint.instrument with
    | .summary => none
    | _ => v.blueprint.arityDefect values
  match miscounted, v.lookup values with
  | some e, _ => some e
  | none, none => some (.missingLabelValues values)
  | none, some _ => none

/-- The series of the children in the order in which they are collected: those of a summary by their
label values, others as they were made. -/
def members (v : MetricVector) : List Nat :=
  match v.blueprint.instrument with
  | .summary => (v.children.mergeSort fun a b => textsLE a.1 b.1).map (·.2)
  | _ => v.children.map (·.2)

end MetricVector

/-- What is reported about the making of metrics. -/
inductive LogEntry where
  /-- A metric is made without help. -/
  | helpMissing (fqName : String)
  | registered (fqName : String)
deriving DecidableEq

def LogEntry.line : LogEntry → String
  | .helpMissing fqName => "WARN no help set for metric name=" ++ fqName
  | .registered fqName => "DEBUG registered metric name=" ++ fqName

/-- All that has been measured and registered. -/
structure Telemetry where
  /-- The reading of the clock. -/
  now : Nat := Duration.clockOrigin
  series : List Series := []
  vectors : List MetricVector := []
  /-- What the callbacks give at the moment. -/
  sources : List Number := []
  registry : List Collector := []
  logs : List LogEntry := []
deriving DecidableEq

/-- Work on telemetry. When it ends in a fault, what was done before stays done. -/
abbrev Action := ExceptT Fault (StateM Telemetry)

namespace Telemetry

/-- Moves the clock on. At the end of its range it starts over from the beginning. -/
def advance (span : Nat) (t : Telemetry) : Telemetry :=
  { t with now := (t.now + span) % Duration.clockLimit }

def log (entry : LogEntry) (t : Telemetry) : Telemetry := { t with logs := t.logs ++ [entry] }

/-! ## Making metrics -/

def addSeries (s : Series) (t : Telemetry) : Telemetry := { t with series := t.series ++ [s] }

def addVector (v : MetricVector) (t : Telemetry) : Telemetry :=
  { t with vectors := t.vectors ++ [v] }

def addSource (x : Number) (t : Telemetry) : Telemetry := { t with sources := t.sources ++ [x] }

/-- Makes the metric of a blueprint, without registering it. -/
def build (b : Blueprint) (t : Telemetry) : Except Fault (Metric × Telemetry) :=
  let handle (id : Nat) : Metric :=
    { instrument := b.instrument, shape := b.shape, descriptor := b.descriptor, id }
  match b.shape with
  | .scalar => (b.onlySeries t.now).map fun s => (handle t.series.length, t.addSeries s)
  | .vector => .ok (handle t.vectors.length, t.addVector { blueprint := b })

/-- Makes what is asked for, without registering it. -/
def make (r : Request) (t : Telemetry) : Except Fault (Metric × Telemetry) :=
  match Blueprint.of r with
  | .ok b => t.build b
  | .error e => .error (.metric e)

/-- Makes a callback whose source gives the value, without registering it. A callback cannot have
variable labels. -/
def makeCallback (kind : CallbackKind) (numeric : NumericType) (o : Opts) (value : Number)
    (t : Telemetry) : Except MetricError (Callback × Telemetry) :=
  match Descriptor.of o o.variableLabels with
  | .error e => .error e
  | .ok descriptor =>
    if descriptor.variableLabels.isEmpty then
      .ok ({ kind, numeric, descriptor, id := t.sources.length }, t.addSource value)
    else .error (.cardinality 0 descriptor.variableLabels.length)

/-- Why a metric with the given descriptor cannot join those that have the others. -/
def registrationDefect (registered : List Descriptor) (d : Descriptor) : Option MetricError :=
  if registered.any fun r => r.identity == d.identity then some .alreadyRegistered
  else if registered.any fun r => r.fqName == d.fqName && r.dimensions != d.dimensions then
    some .conflictingDescriptor
  else none

/-- Registers a collector. -/
def register (c : Collector) (t : Telemetry) : Except MetricError Telemetry :=
  match registrationDefect (t.registry.map Collector.descriptor) c.descriptor with
  | some e => .error e
  | none => .ok { t with registry := t.registry ++ [c] }

/-! ## Using metrics -/

/-- The child of a vector with the given label values, made if it is not there. A handle that is not
a vector's leads to itself. -/
def child (m : Metric) (values : List String) (t : Telemetry) : Except Fault (Metric × Telemetry) :=
  match m.shape, t.vectors[m.id]? with
  | .vector, some v =>
    let handle (id : Nat) : Metric := { m with shape := .scalar, id }
    match v.blueprint.arityDefect values, v.lookup values with
    | some e, _ => .error (.metric e)
    | none, some id => .ok (handle id, t)
    | none, none =>
      (v.blueprint.newSeries values t.now).map fun s =>
        (handle t.series.length,
          { t.addSeries s with vectors := t.vectors.set m.id (v.insert values t.series.length) })
  | _, _ => .ok (m, t)

/-- Drops a child of a vector. -/
def remove (m : Metric) (values : List String) (t : Telemetry) : Except MetricError Telemetry :=
  match t.vectors[m.id]? with
  | none => .error (.missingLabelValues values)
  | some v =>
    match v.eraseDefect values with
    | some e => .error e
    | none => .ok { t with vectors := t.vectors.set m.id (v.erase values) }

/-- Drops all children of a vector. -/
def reset (m : Metric) (t : Telemetry) : Telemetry :=
  { t with vectors := t.vectors.modify m.id fun v => { v with children := [] } }

/-- Sets what a callback gives from now on. -/
def setSource (c : Callback) (x : Number) (t : Telemetry) : Telemetry :=
  { t with sources := t.sources.set c.id x }

/-- What a callback gives. -/
def sourceValue (c : Callback) (t : Telemetry) : Number := t.sources.getD c.id Number.zero

/-- A step on the meter of a series. -/
def stepMeter (id : Nat) (step : Meter → Except Meter Meter) : Action Unit := fun t =>
  let put (s : Series) (meter : Meter) : Telemetry :=
    { t with series := t.series.set id { s with meter } }
  match t.series[id]? with
  | none => (.ok (), t)
  | some s =>
    match step s.meter with
    | .ok meter => (.ok (), put s meter)
    | .error meter => (.error .clockRange, put s meter)

/-- Changes what a metric has measured; vectors are changed through their children. A counter never
falls. -/
def change (m : Metric) (c : Change) : Action Unit := do
  match m.shape with
  | .scalar =>
    if m.instrument = .counter ∧ c.isFall = true then throw .counterFall
    else stepMeter m.id (Meter.apply (← get).now c)
  | .vector => pure ()

/-- What a metric shows of itself at any time. -/
def figure (m : Metric) (t : Telemetry) : Figure :=
  match t.series[m.id]? with
  | some s => s.meter.figure
  | none => .value Number.zero

/-! ## Collecting -/

/-- The series of a metric, in the order in which they are collected. -/
def members (t : Telemetry) : Collector → List Nat
  | .metric m =>
    match m.shape with
    | .scalar => [m.id]
    | .vector =>
      match t.vectors[m.id]? with
      | some v => v.members
      | none => []
  | .callback _ => []

/-- Brings series up to the present, one after the other. -/
def rotateAll : List Nat → Action Unit
  | [] => pure ()
  | id :: ids => do
    stepMeter id (Meter.rotate (← get).now)
    rotateAll ids

/-- The sample of a series. -/
def sample? (t : Telemetry) (id : Nat) : Option Sample :=
  t.series[id]?.map fun s => { labels := s.labels, reading := s.meter.reading }

/-- The samples of a collector, if its series are up to the present. -/
def samples (t : Telemetry) (c : Collector) : List Sample :=
  match c with
  | .metric _ => (t.members c).filterMap t.sample?
  | .callback c =>
    [{ labels := c.descriptor.constLabels, reading := .value (t.sourceValue c) }]

def family (t : Telemetry) (c : Collector) : Family :=
  { name := c.descriptor.fqName
    help := c.descriptor.help
    instrument := c.instrument
    samples := t.samples c }

/-- Collects what one collector has, without a family that has no samples. -/
def collect (c : Collector) : Action (List Family) := do
  rotateAll ((← get).members c)
  return Family.inhabited [(← get).family c]

/-- Collects everything that is registered. -/
def gather : Action (List Family) := do
  let t ← get
  rotateAll (t.registry.flatMap t.members)
  let t ← get
  return Family.mergeAll (t.registry.map t.family)

end Telemetry

end MetricBundle
