import MetricBundle.Error
import MetricBundle.SnakeCase
import MetricBundle.Text.Blank
import MetricBundle.Text.Split

/-!
# Fields

A field of a bundle has an identifier, a declared type and tags. This module reads the tags. A
reader gives the best value it can and notes what is wrong (`Noted`), so one bad entry of a list
hides neither the good entries nor the other bad ones.
-/

namespace MetricBundle

/-- A value together with the faults found on the way to it, in order. -/
structure Noted (α : Type) where
  value : α
  faults : List FieldFault := []

namespace Noted

variable {α β : Type}

instance : Monad Noted where
  pure value := ⟨value, []⟩
  bind x f := ⟨(f x.value).value, x.faults ++ (f x.value).faults⟩

/-- A value on the way overflowed, so that there is nothing to be had. -/
def overflows (x : Noted α) : Bool := x.faults.any FieldFault.isOverflow

/-- Notes faults about nothing. -/
def faulty (faults : List FieldFault) : Noted Unit := ⟨(), faults⟩

@[simp] theorem faults_pure (a : α) : (pure a : Noted α).faults = [] := rfl

@[simp] theorem faults_bind (x : Noted α) (f : α → Noted β) :
    (x >>= f).faults = x.faults ++ (f x.value).faults := rfl

end Noted

/-- One field of a bundle. -/
structure Field where
  ident : String
  typeName : String
  kind : FieldKind
  /-- Visible to the user of the bundle. -/
  exported : Bool := true
  /-- Anonymous, standing for the fields of its type. -/
  embedded : Bool := false
  tags : Tags := {}
deriving DecidableEq

namespace Field

/-- A field whose type has the kind's own name. -/
def ofKind (ident : String) (kind : FieldKind) : Field :=
  { ident, typeName := kind.typeName, kind }

/-- The field with one more tag given to it. -/
def withTag (f : Field) (tag : Tag) (value : String) : Field :=
  { f with tags := f.tags.insert tag value }

/-- The field is not to be populated: it is hidden, embedded or ignored. -/
def skip (f : Field) : Bool := !f.exported || f.embedded || f.tags.get .ignore == Tag.ignored

/-- The name of the field's metric. -/
def metricName (f : Field) : String := MetricBundle.metricName f.ident (f.tags.lookup .name)

def help (f : Field) : String := f.tags.get .help

/-- The namespace given to the field. -/
def space (f : Field) : String := f.tags.get .space

def subsystem (f : Field) : String := f.tags.get .subsystem

/-- A fault of this field as a failure. -/
def failure (f : Field) (fault : FieldFault) : Failure := .field ⟨f.ident, f.typeName, fault⟩

/-! ## Reading tag values -/

/-- The number that an entry denotes, white space around it aside. -/
def readNumber (entry : List Char) : Except FieldFault Number :=
  match Number.read (trimBlank entry) with
  | .ok x => .ok x
  | .error fault => .error (.unreadable (.numeral fault))

/-- The entries that can be read, in order, and a fault for each other entry. -/
def readBuckets : List (List Char) → Noted (List Number)
  | [] => pure []
  | entry :: entries =>
    let rest := readBuckets entries
    match readNumber entry with
    | .ok x => ⟨x :: rest.value, rest.faults⟩
    | .error fault => ⟨rest.value, fault :: rest.faults⟩

/-- The bounds of the buckets. None are given by an empty tag. -/
def buckets (f : Field) : Noted (List Number) :=
  let value := f.tags.get .buckets
  if value.isEmpty then pure [] else readBuckets (splitOn ',' value.toList)

/-- Puts an objective into a list, in the place of the one with the same quantile if there is
one. -/
def putObjective (objectives : List (Number × Number)) (quantile error : Number) :
    List (Number × Number) :=
  match objectives with
  | [] => [(quantile, error)]
  | (q, e) :: rest =>
    if q.same quantile then (q, error) :: rest else (q, e) :: putObjective rest quantile error

/-- The quantile and error of an objective entry. Each side that cannot be read is a fault. -/
def readObjective (entry : List Char) : Except (List FieldFault) (Number × Number) :=
  match splitOn ':' entry with
  | [quantile, error] =>
    match readNumber quantile, readNumber error with
    | .ok q, .ok e => .ok (q, e)
    | .ok _, .error fault => .error [fault]
    | .error fault, .ok _ => .error [fault]
    | .error fault, .error other => .error [fault, other]
  | _ => .error [.malformedObjective (String.ofList entry)]

/-- Puts the objectives of the entries that can be read into a list, in order. -/
def readObjectives (objectives : List (Number × Number)) :
    List (List Char) → Noted (List (Number × Number))
  | [] => pure objectives
  | entry :: entries =>
    match readObjective entry with
    | .ok (q, e) => readObjectives (putObjective objectives q e) entries
    | .error faults =>
      let rest := readObjectives objectives entries
      ⟨rest.value, faults ++ rest.faults⟩

/-- The objectives. None are given by an empty tag. -/
def objectives (f : Field) : Noted (List (Number × Number)) :=
  let value := f.tags.get .objectives
  if value.isEmpty then pure [] else readObjectives [] (splitOn ',' value.toList)

/-- The length of the window; zero if it is not given. -/
def maxAge (f : Field) : Noted Nat :=
  let value := f.tags.get .maxAge
  if value.isEmpty then pure 0
  else
    match Duration.read value.toList with
    | .ok d => pure d
    | .error fault => ⟨0, [.unreadable (.duration fault)]⟩

/-- The count in a tag; zero if it is not given. -/
def count (f : Field) (tag : Tag) : Noted Nat :=
  let value := f.tags.get tag
  if value.isEmpty then pure 0
  else
    match readCount value.toList with
    | .ok n => pure n
    | .error fault => ⟨0, [.unreadable (.count fault)]⟩

def ageBuckets (f : Field) : Noted Nat := f.count .ageBuckets

def bufCap (f : Field) : Noted Nat := f.count .bufCap

/-- The label names. A vector needs at least one, so a blank tag is a fault. -/
def labelNames (f : Field) : Noted (List String) :=
  let names := (splitOn ',' (f.tags.get .labelNames).toList).map trimBlank
  ⟨names.map String.ofList, if names = [[]] then [.labelNamesRequired] else []⟩

/-! ## Checking which tags are there -/

def hasAny (f : Field) (tags : List Tag) : Bool := f.tags.containsAny tags

/-- A fault for each of the given tags that the field has. -/
def forbid (f : Field) (fault : Tag → FieldFault) (tags : List Tag) : List FieldFault :=
  (tags.filter f.tags.contains).map fault

end Field

end MetricBundle
