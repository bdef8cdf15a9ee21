import MetricBundle.Factory
import MetricBundle.Resolution
import MetricBundle.Slots

/-!
# Populating a bundle

The fields of a schema are gone through in order. A field that is not skipped and resolves without a
fault is requested from the factory, and the metric goes into the field's slot. No failure keeps the
following fields from their metrics: failures are collected, and whoever asked gets them all. Only a
field that cannot be resolved at all makes the factory give up.
-/

namespace MetricBundle

/-- What a factory is asked for on behalf of a field: a vector if there are label names. Nothing is
asked for if there are no options or something is wrong with the field. -/
def Field.request? (f : Field) : Option Request :=
  let r := f.resolve
  r.usable?.map fun opts =>
    { opts, labels := if r.labelNames.isEmpty then none else some r.labelNames }

namespace Slots

variable {m : Type → Type} [Monad m]

/-- Fills a slot with the metric that a request was answered with, or collects the error. -/
def receive (index : Nat) (answer : Except Error Metric) (s : Slots) (errors : Errors) :
    Slots × Errors :=
  match answer with
  | .error e => (s, errors.push e)
  | .ok metric =>
    match s.set index metric with
    | .ok filled => (filled, errors)
    | .error e => (s, errors.push (.single e))

/-- Populates the slot of one field. -/
def populateField (factory : MetricFactory m) (index : Nat) (f : Field) (s : Slots)
    (errors : Errors) : m (Slots × Errors) :=
  if f.skip then pure (s, errors)
  else do
    if f.overflows then factory.abandon
    let errors := errors.append ⟨f.resolutionFailures⟩
    match f.request? with
    | none => pure (s, errors)
    | some r => do
      let answer ← factory.request r
      pure (s.receive index answer errors)

/-- Populates the slots of fields in order, the first of which has the given index. -/
def populateFields (factory : MetricFactory m) (index : Nat) :
    List Field → Slots → Errors → m (Slots × Errors)
  | [], s, errors => pure (s, errors)
  | f :: fs, s, errors => do
    let (s, errors) ← populateField factory index f s errors
    populateFields factory (index + 1) fs s errors

/-- Populates the slots from a schema, for which they must have been laid out. The failures of all
fields are collected. -/
def populate (factory : MetricFactory m) (schema : Schema) (s : Slots) : m (Slots × Errors) :=
  if s.schema = schema then populateFields factory 0 schema.fields s Errors.empty
  else
    let foreign := Failure.invalidBundle schema.typeName (.foreignSlots s.schema.typeName)
    pure (s, Errors.empty.push foreign)

end Slots

/-- Slots for a valid schema, populated; or the reason why the schema is not valid, or the failures
of its fields. -/
def Schema.populate {m : Type → Type} [Monad m] (factory : MetricFactory m) (schema : Schema) :
    m (Except Error Slots) :=
  match schema.validate with
  | .error e => pure (.error (.single e))
  | .ok () => do
    let (slots, errors) ← (Slots.ofSchema schema).populate factory schema
    match errors.toExcept with
    | .ok () => pure (.ok slots)
    | .error errors => pure (.error (.bundle errors))

end MetricBundle
