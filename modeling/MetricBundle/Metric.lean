import MetricBundle.Descriptor
import MetricBundle.Number.Numeric

/-!
# Handles

A `Metric` is a handle on a metric that has been made; handles on one metric share what it has
measured. A `Callback` is a metric whose value is asked for when it is collected. Both can be
registered: they are the `Collector`s.
-/

namespace MetricBundle

/-- A handle on a metric. -/
structure Metric where
  instrument : Instrument
  shape : Shape
  descriptor : Descriptor
  /-- The number of the metric's series, or of its vector. -/
  id : Nat
deriving DecidableEq

namespace Metric

/-- The name of the handle's type. -/
def typeName (m : Metric) : String := handleName m.instrument m.shape

/-- The full name under which the metric is registered. -/
def fqName (m : Metric) : String := m.descriptor.fqName

/-- The name of the type around a text. -/
def describeAs (typeName text : String) : String := typeName ++ "(" ++ text ++ ")"

/-- A short description. -/
def describe (m : Metric) : String := describeAs m.typeName (quote m.fqName)

/-- A description of the handle itself. A summary shows its fields. -/
def describeHandle (m : Metric) : String :=
  match m.instrument, m.shape with
  | .summary, .scalar => m.typeName ++ " \x7b name: " ++ quote m.fqName ++ ", .. \x7d"
  | .summary, .vector =>
    m.typeName ++ " \x7b name: " ++ quote m.fqName ++ ", label_names: "
      ++ quoteList m.descriptor.variableLabels ++ ", .. \x7d"
  | _, _ => m.describe

/-- A description of the handle as an observer. -/
def describeObserver (m : Metric) : String :=
  match m.instrument with
  | .summary => describeAs m.typeName m.describeHandle
  | _ => m.describe

end Metric

/-- How a callback is declared. -/
inductive CallbackKind where
  | counter
  | gauge
  | untyped
deriving DecidableEq

namespace CallbackKind

/-- The name of the handle type. -/
def typeName : CallbackKind → String
  | .counter => "CounterFunc"
  | .gauge => "GaugeFunc"
  | .untyped => "UntypedFunc"

/-- The instrument as which a callback is exposed. -/
def instrument : CallbackKind → Instrument
  | .counter => .counter
  | .gauge | .untyped => .gauge

end CallbackKind

/-- A handle on a metric whose value is asked for. -/
structure Callback where
  kind : CallbackKind
  /-- What the source gives numbers of. -/
  numeric : NumericType
  descriptor : Descriptor
  /-- The number of the source that is asked. -/
  id : Nat
deriving DecidableEq

namespace Callback

def fqName (c : Callback) : String := c.descriptor.fqName

/-- A description of the handle. -/
def describeHandle (c : Callback) : String :=
  c.kind.typeName ++ " \x7b name: " ++ quote c.fqName ++ ", .. \x7d"

end Callback

/-- What can be registered and collected. -/
inductive Collector where
  | metric (m : Metric)
  | callback (c : Callback)
deriving DecidableEq

namespace Collector

def descriptor : Collector → Descriptor
  | .metric m => m.descriptor
  | .callback c => c.descriptor

/-- The instrument as which the collected samples are exposed. -/
def instrument : Collector → Instrument
  | .metric m => m.instrument
  | .callback c => c.kind.instrument

end Collector

end MetricBundle
