/-!
# The order of lists of texts

Lists of label values are ordered by their first texts that differ; a list comes before those that
go on after it.
-/

namespace MetricBundle

/-- A list of texts comes before another one or is the same. -/
def textsLE : List String → List String → Bool
  | [], _ => true
  | _ :: _, [] => false
  | a :: rest, b :: others => if a = b then textsLE rest others else decide (a < b)

end MetricBundle
