import MetricBundle.Kind
import MetricBundle.Number

/-!
# Options of metrics

What a metric is created from. All instruments share the options of `Opts`; a histogram has bucket
bounds besides, and a summary has objectives and a window. The full name of a metric joins its
namespace, subsystem and name with `_`, leaving out what is empty; without a name there is no full
name either.
-/

namespace MetricBundle

/-- The options that all instruments share. -/
structure Opts where
  name : String
  help : String
  /-- The namespace. -/
  space : String := ""
  subsystem : String := ""
  /-- Labels with a fixed value. -/
  constLabels : List (String × String) := []
  /-- Labels whose values tell the children of a vector apart. -/
  variableLabels : List String := []
deriving DecidableEq

namespace Opts

/-- The parts of the full name, in order. -/
def nameParts (o : Opts) : List String :=
  [o.space, o.subsystem, o.name].filter fun part => !part.isEmpty

/-- The full name. -/
def fqName (o : Opts) : String :=
  if o.name.isEmpty then "" else "_".intercalate o.nameParts

/-- Fills in a namespace and a subsystem where there is none. -/
def withDefaults (o : Opts) (space subsystem : String) : Opts :=
  { o with
    space := if o.space.isEmpty then space else o.space
    subsystem := if o.subsystem.isEmpty then subsystem else o.subsystem }

end Opts

structure HistogramOpts where
  common : Opts
  buckets : List Number
deriving DecidableEq

/-- The bounds of a histogram that is given none. -/
def defaultBuckets : List Number :=
  [0.005, 0.01, 0.025, 0.05, 0.1, 0.25, 0.5, 1, 2.5, 5, 10].map Number.ofFloat

/-- The objectives of a summary with one more put into them, ordered by quantile. An objective with
the same quantile is replaced. -/
def insertObjective (quantile error : Number) :
    List (Number × Number) → List (Number × Number)
  | [] => [(quantile, error)]
  | (q, e) :: rest =>
    if q.totalKey < quantile.totalKey then (q, e) :: insertObjective quantile error rest
    else if q = quantile then (q, error) :: rest
    else (quantile, error) :: (q, e) :: rest

/-- Options of a summary. A zero length, number of age buckets or capacity stands for the
default. -/
structure SummaryOpts where
  common : Opts
  /-- Quantiles and their allowed errors, ordered by quantile. -/
  objectives : List (Number × Number) := []
  /-- The length of the window in nanoseconds. -/
  maxAge : Nat := 0
  ageBuckets : Nat := 0
  /-- The most samples that an age bucket keeps. -/
  bufCap : Nat := 0
deriving DecidableEq

/-- Adds objectives one by one. -/
def SummaryOpts.withObjectives (o : SummaryOpts) (added : List (Number × Number)) : SummaryOpts :=
  { o with objectives := added.foldl (fun os p => insertObjective p.1 p.2 os) o.objectives }

/-- Options of a metric of any instrument. -/
inductive MetricOpts where
  | counter (o : Opts)
  | gauge (o : Opts)
  | histogram (o : HistogramOpts)
  | summary (o : SummaryOpts)
deriving DecidableEq

namespace MetricOpts

def instrument : MetricOpts → Instrument
  | .counter _ => .counter
  | .gauge _ => .gauge
  | .histogram _ => .histogram
  | .summary _ => .summary

/-- The options that all instruments share. -/
def common : MetricOpts → Opts
  | .counter o => o
  | .gauge o => o
  | .histogram o => o.common
  | .summary o => o.common

/-- The same options with other shared ones. -/
def withCommon : MetricOpts → Opts → MetricOpts
  | .counter _, c => .counter c
  | .gauge _, c => .gauge c
  | .histogram o, c => .histogram { o with common := c }
  | .summary o, c => .summary { o with common := c }

def name (o : MetricOpts) : String := o.common.name

def help (o : MetricOpts) : String := o.common.help

def fqName (o : MetricOpts) : String := o.common.fqName

/-- Fills in a namespace and a subsystem where there is none. -/
def withDefaults (o : MetricOpts) (space subsystem : String) : MetricOpts :=
  o.withCommon (o.common.withDefaults space subsystem)

@[simp] theorem common_withCommon (o : MetricOpts) (c : Opts) : (o.withCommon c).common = c := by
  cases o <;> rfl

@[simp] theorem instrument_withCommon (o : MetricOpts) (c : Opts) :
    (o.withCommon c).instrument = o.instrument := by
  cases o <;> rfl

end MetricOpts

end MetricBundle
