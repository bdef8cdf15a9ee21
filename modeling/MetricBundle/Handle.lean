import MetricBundle.Metric

/-!
# Taking a metric as a type

A member of a bundle has the type of a handle: a metric of one instrument and shape, an observer of
one shape, which is a histogram or a summary, or a metric of any sort. Any of these types can be
made optional, and then there need not be a metric at all.
-/

namespace MetricBundle

/-- A handle as it is used. -/
inductive Handle where
  | metric (m : Metric)
  /-- A histogram or a summary, used as either. -/
  | observer (m : Metric)
  | callback (c : Callback)
deriving DecidableEq

/-- The types that a metric can be taken as. -/
inductive HandleType where
  | metric (i : Instrument) (s : Shape)
  | observer (s : Shape)
  /-- A metric of any sort. -/
  | any
  | option (type : HandleType)
deriving DecidableEq

namespace HandleType

/-- The type of the handles of a field of a kind, for fields that are metrics. -/
def ofKind : FieldKind → Option HandleType
  | .metric i s => some (.metric i s)
  | .observer s => some (.observer s)
  | .other => none

/-- The metric as a handle of the type, if it is of the type. -/
def accept (m : Metric) : HandleType → Option Handle
  | .metric i s => if m.instrument = i ∧ m.shape = s then some (.metric m) else none
  | .observer s => if m.instrument.isObserver ∧ m.shape = s then some (.observer m) else none
  | .any => some (.metric m)
  | .option type => type.accept m

/-- There need not be a metric. -/
def allowsAbsence : HandleType → Bool
  | .option _ => true
  | _ => false

end HandleType

end MetricBundle
