import MetricBundle.Field

/-!
# Schemas

The type name of a bundle and its fields, in declaration order. A valid schema has named fields with
different names.
-/

namespace MetricBundle

/-- The fields of a bundle type, in declaration order. -/
structure Schema where
  typeName : String
  fields : List Field
deriving DecidableEq

namespace Schema

/-- The first defect among fields that follow others, whose identifiers are given. -/
def firstDefect (seen : List String) : List Field → Option BundleDefect
  | [] => none
  | f :: fs =>
    if f.ident.isEmpty then some (.unnamedField seen.length)
    else if seen.contains f.ident then some (.repeatedField f.ident)
    else firstDefect (seen ++ [f.ident]) fs

/-- Every field has an identifier, and no two have the same. -/
def validate (s : Schema) : Except Failure Unit :=
  match firstDefect [] s.fields with
  | none => .ok ()
  | some defect => .error (.invalidBundle s.typeName defect)

end Schema

end MetricBundle
