import MetricBundle.Family
import MetricBundle.Number.Decimal

/-!
# Exposition

Families are exposed as lines of text: the help and the type of a family, then its samples, each
with its name, its labels in braces and its value. A histogram has a sample for each bucket, with
the bound as the last label, and one for all its samples; a summary has one for each quantile, with
the quantile as the last label; and both have their sum and their count.
-/

namespace MetricBundle.Exposition

/-- A text with backslashes and line breaks written with a backslash, and quotes too if asked
for. -/
def escape (quotes : Bool) (s : String) : String :=
  String.ofList (s.toList.flatMap fun c =>
    if c = '\n' then "\\n".toList
    else if c.toNat = 0x5C then "\\\\".toList
    else if quotes ∧ c.toNat = 0x22 then "\\\"".toList
    else [c])

/-- A label with its value in quotes. -/
def label (name value : String) : String := name ++ "=\"" ++ escape true value ++ "\""

/-- Labels in braces, or nothing. -/
def labelBlock (labels : List (String × String)) : String :=
  if labels.isEmpty then ""
  else "\x7b" ++ ",".intercalate (labels.map fun p => label p.1 p.2) ++ "\x7d"

/-- A line with one value. -/
def valueLine (name : String) (labels : List (String × String)) (x : Number) : String :=
  name ++ labelBlock labels ++ " " ++ x.text ++ "\n"

/-- The bound of the bucket that holds all samples. -/
def topBound : String := "+Inf"

/-- The lines of a histogram's buckets. All samples are counted in a line of their own, unless there
is an infinite bound. -/
def bucketLines (name : String) (labels : List (String × String)) (buckets : List (Number × Nat))
    (count : Nat) : List String :=
  let line (bound : String) (n : Nat) : String :=
    valueLine (name ++ "_bucket") (labels ++ [(bucketLabel, bound)]) (Number.ofNat n)
  buckets.map (fun b => line b.1.text b.2)
    ++ if buckets.any fun b => b.1.isTop then [] else [line topBound count]

/-- The lines with the sum and the count of the samples. -/
def totalLines (name : String) (labels : List (String × String)) (sum : Number) (count : Nat) :
    List String :=
  [valueLine (name ++ "_sum") labels sum,
    valueLine (name ++ "_count") labels (Number.ofNat count)]

/-- The lines of a sample. -/
def sampleLines (name : String) (s : Sample) : List String :=
  match s.reading with
  | .value x => [valueLine name s.labels x]
  | .histogram buckets sum count =>
    bucketLines name s.labels buckets count ++ totalLines name s.labels sum count
  | .summary quantiles sum count =>
    quantiles.map (fun q => valueLine name (s.labels ++ [(quantileLabel, q.1.text)]) q.2)
      ++ totalLines name s.labels sum count

/-- The lines before the samples of a family. -/
def headLines (f : Family) : List String :=
  let help :=
    if f.help.isEmpty then [] else ["# HELP " ++ f.name ++ " " ++ escape false f.help ++ "\n"]
  help ++ ["# TYPE " ++ f.name ++ " " ++ f.instrument.name ++ "\n"]

/-- The text of a family. -/
def familyText (f : Family) : String :=
  String.join (headLines f ++ f.samples.flatMap (sampleLines f.name))

/-- The text of families, one after the other. -/
def text (families : List Family) : String := String.join (families.map familyText)

end MetricBundle.Exposition
