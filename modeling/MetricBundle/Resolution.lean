import MetricBundle.Field
import MetricBundle.Options

/-!
# Resolving a field

The kind and the tags of a field decide the options and the label names of its metric. Every tag
that is given must be legal for the kind, and every value must be readable; each violation is a
fault. The factory is asked for the metric only if there is none.

An observer becomes a summary if its type tag says so, or if the tag is empty and some tag is there
that only summaries have. Tags of the other instrument are then ambiguous rather than not allowed.
-/

namespace MetricBundle

/-- What a field resolves to. There are no options for a field that is no metric, or for an observer
whose type is unknown. -/
structure Resolved where
  opts : Option MetricOpts
  labelNames : List String
  faults : List FieldFault

/-- The options, if there are some and nothing is wrong. -/
def Resolved.usable? (r : Resolved) : Option MetricOpts :=
  if r.faults.isEmpty then r.opts else none

def Resolved.isUsable (r : Resolved) : Bool := r.usable?.isSome

namespace Field

/-- The shared options of the field's metric. -/
def commonOpts (f : Field) : Opts :=
  { name := f.metricName, help := f.help, space := f.space, subsystem := f.subsystem }

def histogramOpts (f : Field) : Noted HistogramOpts := do
  let bounds ← f.buckets
  return { common := f.commonOpts, buckets := if bounds.isEmpty then defaultBuckets else bounds }

def summaryOpts (f : Field) : Noted SummaryOpts := do
  let objectives ← f.objectives
  let maxAge ← f.maxAge
  let ageBuckets ← f.ageBuckets
  let bufCap ← f.bufCap
  let plain : SummaryOpts := { common := f.commonOpts, maxAge, ageBuckets, bufCap }
  return plain.withObjectives objectives

/-- The options for an instrument. Counters and gauges have no tags of observers. -/
def optsFor (f : Field) : Instrument → Noted MetricOpts
  | .counter => do
    Noted.faulty (f.forbid .notAllowed Tag.observerOnly)
    return .counter f.commonOpts
  | .gauge => do
    Noted.faulty (f.forbid .notAllowed Tag.observerOnly)
    return .gauge f.commonOpts
  | .histogram => do return .histogram (← f.histogramOpts)
  | .summary => do return .summary (← f.summaryOpts)

/-- The tags that an instrument, being an observer, does not share with the other one. -/
def foreignTags : Instrument → List Tag
  | .histogram => Tag.summaryOnly
  | .summary => Tag.histogramOnly
  | .counter | .gauge => []

/-- The tags that only fields of a certain kind may have: the type belongs to observers, and label
names to vectors. -/
def misplacedTags : Shape → List Tag
  | .scalar => [.kind, .labelNames]
  | .vector => [.kind]

/-- The instrument that an observer becomes. -/
def observerInstrument? (f : Field) : Option Instrument :=
  let kind := f.tags.get .kind
  if kind = Instrument.name .histogram then some .histogram
  else if kind = Instrument.name .summary then some .summary
  else if kind.isEmpty then
    some (if f.hasAny Tag.summaryOnly then .summary else .histogram)
  else none

def observerOpts (f : Field) : Noted (Option MetricOpts) :=
  match f.observerInstrument? with
  | none => ⟨none, [.unknownObserver (f.tags.get .kind)]⟩
  | some i => do
    let opts ← f.optsFor i
    Noted.faulty (f.forbid .ambiguous (foreignTags i))
    return some opts

/-- The label names that the shape asks for. -/
def shapeLabels (f : Field) : Shape → Noted (List String)
  | .scalar => pure []
  | .vector => f.labelNames

/-- The options and label names of a metric field, in one reading. -/
def resolveNoted (f : Field) : Noted (Option MetricOpts × List String) :=
  match f.kind with
  | .metric i s => do
    let opts ← f.optsFor i
    Noted.faulty (f.forbid .notAllowed (misplacedTags s))
    Noted.faulty (f.forbid .notAllowed (foreignTags i))
    let labels ← f.shapeLabels s
    return (some opts, labels)
  | .observer .scalar => do
    let opts ← f.observerOpts
    Noted.faulty (f.forbid .notAllowed [.labelNames])
    return (opts, [])
  | .observer .vector => do
    let opts ← f.observerOpts
    let labels ← f.labelNames
    return (opts, labels)
  | .other => pure (none, [])

/-- What a field resolves to. -/
def resolve (f : Field) : Resolved :=
  let r := f.resolveNoted
  { opts := r.value.1, labelNames := r.value.2, faults := r.faults }

/-- The field cannot be resolved at all: a value overflows. -/
def overflows (f : Field) : Bool := f.resolveNoted.overflows

/-- The faults of a field's resolution, as failures. -/
def resolutionFailures (f : Field) : List Failure := f.resolve.faults.map f.failure

end Field

end MetricBundle
