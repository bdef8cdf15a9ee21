import MetricBundle.Handle
import MetricBundle.Schema

/-!
# Slots

The metrics made for a bundle are kept in slots, one for each field of its schema, until they are
taken out as the types of the members. Slots are filled and taken by index and looked up by
identifier.
-/

namespace MetricBundle

/-- A slot for each field of a schema, empty or with the metric of the field. -/
structure Slots where
  schema : Schema
  metrics : List (Option Metric)
  aligned : metrics.length = schema.fields.length
deriving DecidableEq

namespace Slots

/-- Empty slots for a schema. -/
def ofSchema (s : Schema) : Slots where
  schema := s
  metrics := s.fields.map fun _ => none
  aligned := List.length_map _

/-- The slots with one of them holding something else. -/
def put (s : Slots) (index : Nat) (slot : Option Metric) : Slots :=
  { s with
    metrics := s.metrics.set index slot
    aligned := by rw [List.length_set, s.aligned] }

/-- The index is not one of a field. -/
def noSuchField (s : Slots) (index : Nat) : Failure :=
  .invalidBundle s.schema.typeName (.noSuchField index)

/-- Fills a slot. -/
def set (s : Slots) (index : Nat) (m : Metric) : Except Failure Slots :=
  if index < s.metrics.length then .ok (s.put index (some m)) else .error (s.noSuchField index)

/-- The metric in a slot. -/
def metric? (s : Slots) (index : Nat) : Option Metric := (s.metrics[index]?).join

/-- The metric of the field with the given identifier. -/
def get (s : Slots) (ident : String) : Option Metric :=
  match s.schema.fields.findIdx? fun f => f.ident == ident with
  | some index => s.metric? index
  | none => none

/-- The fields that have a metric, with their metrics. -/
def filled (s : Slots) : List (Field × Metric) :=
  (s.schema.fields.zip s.metrics).filterMap fun (f, slot) => slot.map fun m => (f, m)

/-- The number of filled slots. -/
def size (s : Slots) : Nat := s.metrics.countP Option.isSome

def isEmpty (s : Slots) : Bool := s.size == 0

/-- The slots with one of them empty. -/
def emptied (s : Slots) (index : Nat) : Slots := s.put index none

/-- Takes the metric out of a slot as a handle of the given type. A metric of another type is gone
from its slot all the same. An empty slot gives no handle, if the type allows that. -/
def take (s : Slots) (type : HandleType) (index : Nat) : Except Failure (Option Handle) × Slots :=
  match s.schema.fields[index]? with
  | none => (.error (s.noSuchField index), s)
  | some f =>
    match s.metric? index with
    | some m =>
      match type.accept m with
      | some h => (.ok (some h), s.emptied index)
      | none => (.error (f.failure (.typeMismatch m.instrument m.shape)), s.emptied index)
    | none =>
      if type.allowsAbsence then (.ok none, s) else (.error (f.failure .notPopulated), s)

end Slots

end MetricBundle
