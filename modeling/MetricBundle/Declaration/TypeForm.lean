import MetricBundle.Declaration.Phrase
import MetricBundle.Kind

/-!
# The meaning of a declared type

What a field's type says about its kind is on the surface: the last name of its path, or, for an
option, the last name of the path of the type inside. All other types are left alone.
-/

namespace MetricBundle.Form

/-- The name of the type inside an option, if it has one. An option is a path that ends in `Option`,
with a type as its only argument. -/
def optionInner? : Form → Option (Option (List Char))
  | .path p =>
    if p.lastName = "Option".toList then
      match p.arguments with
      | .angle [.type name] => some name
      | _ => none
    else none
  | _ => none

/-- The name by which a type is known. A path that begins with a type in angle brackets has none. -/
def name? : Form → Option (List Char)
  | .path p => if p.qualified then none else some p.lastName
  | _ => none

/-- The kind that a name stands for. -/
def kindOfName : Option (List Char) → FieldKind
  | some name => FieldKind.ofTypeName (String.ofList name)
  | none => .other

/-- The kind of a field with a type of this form, and whether the type is an option. -/
def kind (form : Form) : FieldKind × Bool :=
  match form.optionInner? with
  | some inner => (kindOfName inner, true)
  | none => (kindOfName form.name?, false)

end MetricBundle.Form
