import MetricBundle.Bundle
import MetricBundle.Declaration.Item
import MetricBundle.Declaration.TypeForm

/-!
# Deriving a bundle

A struct with named fields is turned into a bundle: its schema, and an initializer for each field. A
metric field that is not skipped takes its metric from the slot with its index. Other fields get
nothing if they are options and the default of their type if not, so a skipped metric field has to
be an option.
-/

namespace MetricBundle

/-- A field of a derived bundle. -/
structure DerivedField where
  ident : String
  typeName : String
  kind : FieldKind
  optional : Bool
  /-- The tags, in source order. -/
  tags : List (Tag × String)
deriving DecidableEq

namespace DerivedField

/-- The declaration ignores the field. -/
def skipped (f : DerivedField) : Bool := f.tags.any fun e => e.1 == .ignore && e.2 == Tag.ignored

/-- The initializer of a member that gets no metric. -/
def vacant (f : DerivedField) : Initializer := if f.optional then .none else .default

/-- The field as part of a schema. -/
def toField (f : DerivedField) : Field :=
  f.tags.foldl (fun field e => field.withTag e.1 e.2)
    { ident := f.ident, typeName := f.typeName, kind := f.kind }

/-- The type of the member, if it is a handle or an optional one. -/
def handleType? (f : DerivedField) : Option HandleType :=
  (HandleType.ofKind f.kind).map fun type => if f.optional then .option type else type

/-- The initializer of the member with the given index. -/
def initializer (f : DerivedField) (index : Nat) : Initializer :=
  match f.handleType? with
  | some type => if f.skipped then f.vacant else .take index type
  | none => f.vacant

end DerivedField

/-- A derived bundle. -/
structure Derivation where
  typeName : String
  fields : List DerivedField
deriving DecidableEq

namespace Derivation

/-- The schema of the bundle. -/
def schema (d : Derivation) : Schema :=
  { typeName := d.typeName, fields := d.fields.map DerivedField.toField }

/-- The initializers of the fields, in order. -/
def initializers (d : Derivation) : List Initializer :=
  d.fields.mapIdx fun index f => f.initializer index

/-- The bundle itself. -/
def bundle (d : Derivation) : Bundle (List Member) :=
  Bundle.ofInitializers d.schema d.initializers

/-- An identifier as it is named in a schema. -/
def plainName (name : String) : String := String.ofList (plainIdent name.toList)

/-- A field of the derived bundle. -/
def readField (f : DeclaredField) : Except DeclarationFault DerivedField :=
  match Attribute.readAll [] f.attributes with
  | .error fault => .error fault
  | .ok tags =>
    let (kind, optional) := f.type.form.kind
    let derived : DerivedField :=
      { ident := plainName f.ident
        typeName := Token.denseSource f.type.tokens
        kind
        optional
        tags }
    if derived.kind.isMetric && derived.skipped && !derived.optional then
      .error .skippedNotOptional
    else .ok derived

/-- The fields of the derived bundle, or the fault of the first that has one. -/
def readFields : List DeclaredField → Except DeclarationFault (List DerivedField)
  | [] => .ok []
  | f :: fs =>
    match readField f with
    | .error fault => .error fault
    | .ok derived =>
      match readFields fs with
      | .error fault => .error fault
      | .ok others => .ok (derived :: others)

/-- The bundle that a declared item derives. -/
def ofItem (item : Item) : Except DeclarationFault Derivation :=
  match item.form with
  | .namedStruct =>
    match readFields item.fields with
    | .error fault => .error fault
    | .ok fields => .ok ⟨plainName item.name, fields⟩
  | .tupleStruct | .unitStruct => .error .fieldsNotNamed
  | .enumeration | .union => .error .notAStruct

end Derivation

end MetricBundle
