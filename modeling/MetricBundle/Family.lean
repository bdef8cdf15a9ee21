import MetricBundle.Kind
import MetricBundle.Meter
import MetricBundle.Text.Order

/-!
# Families of samples

What is collected is a family of samples under one name. A registry reports its families ordered by
name, those of one name put together, and the samples of each ordered by the values of their labels.
-/

namespace MetricBundle

/-- One reading with its labels, which are ordered by name. -/
structure Sample where
  labels : List (String × String)
  reading : Reading
deriving DecidableEq

namespace Sample

/-- Fewer labels come first; of the same number, those whose values do. -/
def le (a b : Sample) : Bool :=
  if a.labels.length = b.labels.length then textsLE (a.labels.map (·.2)) (b.labels.map (·.2))
  else decide (a.labels.length ≤ b.labels.length)

end Sample

/-- The samples under one name. -/
structure Family where
  name : String
  help : String
  instrument : Instrument
  samples : List Sample
deriving DecidableEq

namespace Family

/-- Puts a family into a list ordered by name. If there is one of its name, that one gets its
samples as well. -/
def merge (f : Family) : List Family → List Family
  | [] => [f]
  | g :: rest =>
    if g.name < f.name then g :: merge f rest
    else if g.name = f.name then { g with samples := g.samples ++ f.samples } :: rest
    else f :: g :: rest

/-- The family with its samples ordered. -/
def ordered (f : Family) : Family := { f with samples := f.samples.mergeSort Sample.le }

/-- The families that have samples. -/
def inhabited (families : List Family) : List Family :=
  families.filter fun f => !f.samples.isEmpty

/-- The families of a registry, from those of its collectors. -/
def mergeAll (families : List Family) : List Family :=
  ((inhabited families).foldl (fun merged f => merge f merged) []).map ordered

end Family

end MetricBundle
