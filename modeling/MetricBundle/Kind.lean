/-!
# Kinds of metrics and of fields

There are four instruments. A metric is one instrument, or a vector of them with one child for each
tuple of label values. A field of a bundle is declared as one of these eight, as an observer, whose
tags decide between a histogram and a summary, or as something that is no metric at all.
-/

namespace MetricBundle

/-- What a metric measures with. -/
inductive Instrument where
  | counter
  | gauge
  | histogram
  | summary
deriving DecidableEq

namespace Instrument

/-- The name in options and in exposed text. -/
def name : Instrument → String
  | .counter => "counter"
  | .gauge => "gauge"
  | .histogram => "histogram"
  | .summary => "summary"

/-- The name of the handle type. -/
def title : Instrument → String
  | .counter => "Counter"
  | .gauge => "Gauge"
  | .histogram => "Histogram"
  | .summary => "Summary"

/-- Histograms and summaries record observations. -/
def isObserver : Instrument → Bool
  | .counter | .gauge => false
  | .histogram | .summary => true

end Instrument

/-- The label under which the buckets of a histogram are exposed. -/
def bucketLabel : String := "le"

/-- The label under which the quantiles of a summary are exposed. -/
def quantileLabel : String := "quantile"

/-- One instrument, or one for each tuple of label values. -/
inductive Shape where
  | scalar
  | vector
deriving DecidableEq

namespace Shape

/-- What the name of a handle type of this shape ends with. -/
def ending : Shape → String
  | .scalar => ""
  | .vector => "Vec"

def all : List Shape := [.scalar, .vector]

end Shape

/-- The name of the handle type of an instrument in a shape. -/
def handleName (i : Instrument) (s : Shape) : String := i.title ++ s.ending

/-- What a field of a bundle is declared as. -/
inductive FieldKind where
  | metric (i : Instrument) (s : Shape)
  /-- A histogram or a summary, by the tags of the field. -/
  | observer (s : Shape)
  /-- Not a metric; such a field is left alone. -/
  | other
deriving DecidableEq

namespace FieldKind

/-- The kinds of metric fields. -/
def metrics : List FieldKind :=
  [.metric .counter .scalar, .metric .counter .vector, .metric .gauge .scalar,
    .metric .gauge .vector, .metric .histogram .scalar, .metric .histogram .vector,
    .metric .summary .scalar, .metric .summary .vector, .observer .scalar, .observer .vector]

/-- The name of the type of a field of this kind; a field of another kind shows a blank. -/
def typeName : FieldKind → String
  | .metric i s => handleName i s
  | .observer s => "Observer" ++ s.ending
  | .other => "_"

/-- The kind of a field with a type of the given name. -/
def ofTypeName (name : String) : FieldKind :=
  (metrics.find? fun k => k.typeName == name).getD .other

/-- Vectors of any instrument. -/
def isVector : FieldKind → Bool
  | .metric _ .vector | .observer .vector => true
  | _ => false

def isMetric : FieldKind → Bool
  | .other => false
  | _ => true

end FieldKind

end MetricBundle
