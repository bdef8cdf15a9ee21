import MetricBundle.Telemetry

/-!
# Factories

A factory answers requests for metrics with handles or errors, in whatever monad it works. The
`Factory` of this module makes what is asked for in its telemetry and registers it. It fills in its
namespace and subsystem where the options have none, and the name of the metric where they have no
help, which it reports beforehand. What it cannot register it does not make either.
-/

namespace MetricBundle

/-- Something that is asked for metrics. -/
structure MetricFactory (m : Type → Type) where
  request : Request → m (Except Error Metric)
  /-- Gives up, since what is to be asked for cannot be told. -/
  abandon : m Unit

/-- A factory with its namespace and subsystem for metrics that have none. -/
structure Factory where
  space : String
  subsystem : String
deriving DecidableEq

namespace Factory

/-- A description of the factory. -/
def describe (f : Factory) : String :=
  "Factory \x7b namespace: " ++ quote f.space ++ ", subsystem: " ++ quote f.subsystem ++ ", .. \x7d"

/-- Options with everything filled in that the factory supplies. -/
def prepare (f : Factory) (o : Opts) : Opts :=
  let o := o.withDefaults f.space f.subsystem
  if o.help.isEmpty then { o with help := o.name } else o

/-- A request with its options prepared. -/
def prepareRequest (f : Factory) (r : Request) : Request :=
  { r with opts := r.opts.withCommon (f.prepare r.opts.common) }

/-- Reports options without help. -/
def announce (f : Factory) (o : Opts) (t : Telemetry) : Telemetry :=
  if o.help.isEmpty then t.log (.helpMissing (f.prepare o).fqName) else t

/-- Registers what has been made; if either fails, nothing of it is kept. -/
def enrol {α : Type} (collector : α → Collector) (made : Except Fault (α × Telemetry)) :
    Action (Except Error α) := fun t =>
  match made with
  | .error (.metric e) => (.ok (.error (.single (.metric e))), t)
  | .error fault => (.error fault, t)
  | .ok (a, extended) =>
    match extended.register (collector a) with
    | .error e => (.ok (.error (.single (.metric e))), t)
    | .ok registered =>
      (.ok (.ok a), registered.log (.registered (collector a).descriptor.fqName))

/-- Makes and registers a metric. -/
def newMetric (f : Factory) (r : Request) : Action (Except Error Metric) := fun t =>
  if r.opts.name.isEmpty then (.ok (.error (.single .noMetricName)), t)
  else
    let t := f.announce r.opts.common t
    enrol .metric (t.make (f.prepareRequest r)) t

/-- Makes and registers a histogram or a summary. -/
def newObserver (f : Factory) (r : Request) : Action (Except Error Metric) := fun t =>
  if r.opts.instrument.isObserver then f.newMetric r t
  else (.ok (.error (.single (.notAnObserver r.opts.instrument))), t)

/-- Makes and registers a callback. -/
def newCallback (f : Factory) (kind : CallbackKind) (numeric : NumericType) (o : Opts)
    (value : Number) : Action (Except Error Callback) := fun t =>
  if o.name.isEmpty then (.ok (.error (.single .noMetricName)), t)
  else
    let t := f.announce o t
    let made :=
      match t.makeCallback kind numeric (f.prepare o) value with
      | .ok made => .ok made
      | .error e => .error (.metric e)
    enrol .callback made t

/-- The factory as one that bundles can be populated with. -/
def toMetricFactory (f : Factory) : MetricFactory Action where
  request := f.newMetric
  abandon := throw .tagOverflow

end Factory

end MetricBundle
