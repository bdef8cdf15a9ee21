import MetricBundle.Population

/-!
# Bundles

A bundle is a value whose members are the metrics of a schema. Populating it makes the metrics and
then assembles the value from the slots. A provider does that any number of times, each time from
the start; it is only given out for a valid schema.
-/

namespace MetricBundle

/-- A type of values that are assembled from the metrics of a schema. -/
structure Bundle (β : Type) where
  schema : Schema
  assemble : Slots → Except Error β

namespace Bundle

variable {β : Type} {m : Type → Type} [Monad m]

/-- Makes the metrics of a bundle and assembles it. -/
def populate (factory : MetricFactory m) (b : Bundle β) : m (Except Error β) := do
  match ← b.schema.populate factory with
  | .ok slots => pure (b.assemble slots)
  | .error e => pure (.error e)

end Bundle

/-- How a member of a bundle gets its value. -/
inductive Initializer where
  /-- The metric in the slot with the given index, as a handle of the type. -/
  | take (index : Nat) (type : HandleType)
  /-- Nothing, in an optional member. -/
  | none
  /-- The default of the member's type. -/
  | default
deriving DecidableEq

/-- The value of a member. -/
inductive Member where
  | handle (h : Handle)
  | absent
  | default
deriving DecidableEq

namespace Member

/-- The member that gets what was taken from a slot. -/
def ofTaken : Option Handle → Member
  | some h => .handle h
  | none => .absent

/-- The value of a member, and the slots without what it took. -/
def fill (slots : Slots) : Initializer → Except Failure Member × Slots
  | .take index type =>
    let (taken, slots) := slots.take type index
    (taken.map ofTaken, slots)
  | .none => (.ok .absent, slots)
  | .default => (.ok .default, slots)

/-- The values of members in order, up to the first that cannot be had. -/
def fillAll (slots : Slots) : List Initializer → Except Failure (List Member)
  | [] => .ok []
  | i :: is =>
    match fill slots i with
    | (.error e, _) => .error e
    | (.ok member, slots) => (fillAll slots is).map (member :: ·)

end Member

/-- The bundle that has the members given by initializers. -/
def Bundle.ofInitializers (schema : Schema) (initializers : List Initializer) :
    Bundle (List Member) where
  schema := schema
  assemble slots :=
    match Member.fillAll slots initializers with
    | .ok members => .ok members
    | .error e => .error (.single e)

/-- Populates bundles of one type on demand. -/
structure Provider (β : Type) where
  bundle : Bundle β

namespace Provider

variable {β : Type} {m : Type → Type} [Monad m]

/-- The provider of a bundle with a valid schema. -/
def of (b : Bundle β) : Except Failure (Provider β) :=
  match b.schema.validate with
  | .ok () => .ok ⟨b⟩
  | .error e => .error e

def typeName (p : Provider β) : String := p.bundle.schema.typeName

/-- A description of the provider. -/
def describe (p : Provider β) : String :=
  "Provider \x7b type_name: " ++ quote p.typeName ++ ", .. \x7d"

/-- Populates a new bundle. -/
def construct (factory : MetricFactory m) (p : Provider β) : m (Except Error β) :=
  p.bundle.populate factory

end Provider

end MetricBundle
