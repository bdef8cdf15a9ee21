import MetricBundle.Declaration.Attribute
import MetricBundle.Declaration.Phrase

/-!
# Declared items

What is left of a declaration once its phrases are read: its form, its name and its fields.
-/

namespace MetricBundle

/-- What is declared. -/
inductive ItemForm where
  | namedStruct
  | tupleStruct
  | unitStruct
  | enumeration
  | union
deriving DecidableEq

/-- A declared field: its identifier, its type, and its attributes. -/
structure DeclaredField where
  ident : String
  type : Phrase
  attributes : List Attribute

/-- A declared item, with its fields if they have names. -/
structure Item where
  form : ItemForm
  name : String
  fields : List DeclaredField

end MetricBundle
