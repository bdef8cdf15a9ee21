/-!
# Tags

A field of a bundle is annotated with tags: a fixed vocabulary of keys, each with a text as value.
The tags of a field are kept in the order in which each was first given, and giving a tag again
replaces its value in place. A tag that is given with an empty value is present all the same.
-/

namespace MetricBundle

/-- The keys with which a field can be annotated. -/
inductive Tag where
  /-- `-` leaves the field unpopulated. -/
  | ignore
  /-- The namespace of the metric, instead of the default one. -/
  | space
  /-- The subsystem of the metric, instead of the default one. -/
  | subsystem
  /-- The name of the metric; its first `*` stands for the field's identifier in snake case. -/
  | name
  | help
  /-- The bounds of a histogram's buckets, separated by commas. -/
  | buckets
  /-- The objectives of a summary: `quantile:error` entries, separated by commas. -/
  | objectives
  /-- How long a summary remembers an observation. -/
  | maxAge
  | ageBuckets
  | bufCap
  /-- The label names of a vector, separated by commas. -/
  | labelNames
  /-- `histogram` or `summary`, for an observer. -/
  | kind
deriving DecidableEq

namespace Tag

/-- The whole vocabulary. -/
def all : List Tag :=
  [.ignore, .space, .subsystem, .name, .help, .buckets, .objectives, .maxAge, .ageBuckets, .bufCap,
    .labelNames, .kind]

/-- How a tag is written. -/
def key : Tag → String
  | .ignore => "ignore"
  | .space => "namespace"
  | .subsystem => "subsystem"
  | .name => "name"
  | .help => "help"
  | .buckets => "buckets"
  | .objectives => "objectives"
  | .maxAge => "max_age"
  | .ageBuckets => "age_buckets"
  | .bufCap => "buf_cap"
  | .labelNames => "label_names"
  | .kind => "type"

/-- The name of a tag in generated declarations. -/
def title : Tag → String
  | .ignore => "Ignore"
  | .space => "Namespace"
  | .subsystem => "Subsystem"
  | .name => "Name"
  | .help => "Help"
  | .buckets => "Buckets"
  | .objectives => "Objectives"
  | .maxAge => "MaxAge"
  | .ageBuckets => "AgeBuckets"
  | .bufCap => "BufCap"
  | .labelNames => "LabelNames"
  | .kind => "Type"

/-- The tag that a key stands for. -/
def ofKey? (key : String) : Option Tag := all.find? fun t => t.key == key

theorem mem_all (t : Tag) : t ∈ all := by cases t <;> decide

theorem ofKey?_key (t : Tag) : ofKey? t.key = some t := by cases t <;> decide

/-- The value of `ignore` that leaves a field unpopulated. -/
def ignored : String := "-"

/-- Tags that only histograms have. -/
def histogramOnly : List Tag := [.buckets]

/-- Tags that only summaries have. -/
def summaryOnly : List Tag := [.objectives, .maxAge, .ageBuckets, .bufCap]

/-- Tags that only histograms and summaries have. -/
def observerOnly : List Tag := histogramOnly ++ summaryOnly

end Tag

/-- The tags given to a field, with their values, in the order in which each was first given. -/
structure Tags where
  entries : List (Tag × String) := []
deriving DecidableEq

namespace Tags

/-- Gives a tag: its value is replaced if it was given before. -/
def insert (ts : Tags) (tag : Tag) (value : String) : Tags :=
  if ts.entries.any (·.1 == tag) then
    ⟨ts.entries.map fun e => if e.1 = tag then (tag, value) else e⟩
  else ⟨ts.entries ++ [(tag, value)]⟩

/-- The tags given by a list of pairs, one after the other. -/
def ofList (pairs : List (Tag × String)) : Tags :=
  pairs.foldl (fun ts p => ts.insert p.1 p.2) {}

/-- The value of a tag, if it was given. -/
def lookup (ts : Tags) (tag : Tag) : Option String :=
  (ts.entries.find? (·.1 == tag)).map (·.2)

/-- The value of a tag; empty if it was not given. -/
def get (ts : Tags) (tag : Tag) : String := (ts.lookup tag).getD ""

def contains (ts : Tags) (tag : Tag) : Bool := (ts.lookup tag).isSome

def containsAny (ts : Tags) (tags : List Tag) : Bool := tags.any ts.contains

def size (ts : Tags) : Nat := ts.entries.length

def isEmpty (ts : Tags) : Bool := ts.entries.isEmpty

end Tags

end MetricBundle
