import MetricBundle.Error
import MetricBundle.Options

/-!
# Descriptors

A descriptor is what a metric is known by: its full name, its help text, its constant labels and the
names of its variable labels. Two metrics with the same `identity` are duplicates; two with the same
full name must agree on their `dimensions`.

Names of metrics and labels are words of ASCII letters, digits and `_` that do not begin with a
digit; a metric's name may also have `:` in it.
-/

namespace MetricBundle

/-- The beginning of a label name. -/
def isLabelStart (c : Char) : Bool := c.isAlpha || c == '_'

/-- The beginning of a metric name. -/
def isNameStart (c : Char) : Bool := isLabelStart c || c == ':'

/-- A word that begins with a character of one class and goes on with that class and digits. -/
def isWord (start : Char → Bool) : List Char → Bool
  | [] => false
  | c :: cs => start c && cs.all fun d => start d || d.isDigit

def isMetricName (name : String) : Bool := isWord isNameStart name.toList

def isLabelName (name : String) : Bool := isWord isLabelStart name.toList

/-- Puts a label into a list ordered by name. A label of the same name gets the new value. -/
def putLabel (name value : String) : List (String × String) → List (String × String)
  | [] => [(name, value)]
  | (n, v) :: rest =>
    if n < name then (n, v) :: putLabel name value rest
    else if n = name then (name, value) :: rest
    else (name, value) :: (n, v) :: rest

/-- Labels ordered by name. Of two with one name the later stays. -/
def orderLabels (labels : List (String × String)) : List (String × String) :=
  labels.foldl (fun ls p => putLabel p.1 p.2 ls) []

/-- Puts a name into an ordered list, unless it is there. -/
def putName (name : String) : List String → List String
  | [] => [name]
  | n :: rest =>
    if n < name then n :: putName name rest
    else if n = name then n :: rest
    else name :: n :: rest

/-- What a metric is known by. -/
structure Descriptor where
  fqName : String
  help : String
  /-- Labels with a fixed value, ordered by name. -/
  constLabels : List (String × String)
  variableLabels : List String
deriving DecidableEq

namespace Descriptor

/-- The first constant label whose name is not valid. -/
def constDefect (labels : List (String × String)) : Option MetricError :=
  (labels.find? fun p => !isLabelName p.1).map fun p => .invalidLabelName p.1

/-- The first variable label whose name is not valid or repeats one of those before it. -/
def variableDefect (seen : List String) : List String → Option MetricError
  | [] => none
  | name :: names =>
    if !isLabelName name then some (.invalidLabelName name)
    else if seen.contains name then some (.repeatedLabel name)
    else variableDefect (name :: seen) names

/-- What is wrong with a descriptor, if anything is. -/
def defect (d : Descriptor) : Option MetricError :=
  if d.help.isEmpty then some .emptyHelp
  else if !isMetricName d.fqName then some (.invalidMetricName d.fqName)
  else
    match constDefect d.constLabels with
    | some e => some e
    | none => variableDefect [] d.variableLabels

/-- The descriptor of a metric with the given shared options and variable labels. -/
def of (o : Opts) (variableLabels : List String) : Except MetricError Descriptor :=
  let d : Descriptor :=
    { fqName := o.fqName, help := o.help, constLabels := orderLabels o.constLabels, variableLabels }
  match d.defect with
  | some e => .error e
  | none => .ok d

/-- A registry holds at most one metric of an identity: the full name and the values of the constant
labels, ordered by their names. -/
def identity (d : Descriptor) : String × List String := (d.fqName, d.constLabels.map (·.2))

/-- What metrics with the same full name must share: the help text and the names of their constant
and of their variable labels, in any order. -/
def dimensions (d : Descriptor) : String × List String × List String :=
  (d.help, d.constLabels.map (·.1), d.variableLabels.foldl (fun ns n => putName n ns) [])

/-- The descriptor has a label of the given name. -/
def hasLabel (d : Descriptor) (name : String) : Bool :=
  d.variableLabels.contains name || d.constLabels.any (·.1 == name)

theorem defect_of {o : Opts} {labels : List String} {d : Descriptor} (h : of o labels = .ok d) :
    d.defect = none := by
  simp only [of] at h
  split at h
  · cases h
  · injection h with h
    subst h
    assumption

theorem variableLabels_of {o : Opts} {labels : List String} {d : Descriptor}
    (h : of o labels = .ok d) : d.variableLabels = labels := by
  simp only [of] at h
  split at h
  · cases h
  · injection h with h
    subst h
    rfl

end Descriptor

end MetricBundle
