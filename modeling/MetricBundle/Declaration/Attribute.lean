import MetricBundle.Declaration.Token
import MetricBundle.Tag

/-!
# Attributes of a field

A field is tagged by attributes with the path `metric`, each with a list of items between commas. An
item is `skip`, or the key of a tag, an equals sign and a string or a number. `skip` stands for the
tag `ignore` with the value that ignores the field. No tag may be given twice to one field.
-/

namespace MetricBundle

/-- Why a declaration is refused. -/
inductive DeclarationFault where
  | notAStruct
  | fieldsNotNamed
  /-- An attribute without a list of items. -/
  | argumentsMissing
  /-- An attribute with a value instead of a list of items. -/
  | listMissing
  | itemMissing
  | itemIsLiteral
  | itemMalformed
  /-- No identifier after a separator; `atEnd` if nothing follows it at all. -/
  | identMissing (atEnd : Bool)
  | unknownKey (key : String)
  | equalsMissing
  /-- No literal after the equals sign; `atEnd` if nothing follows it at all. -/
  | literalMissing (atEnd : Bool)
  | wrongLiteral
  | repeatedTag (tag : Tag)
  | commaMissing
  | skippedNotOptional
deriving DecidableEq

def DeclarationFault.message : DeclarationFault → String
  | .notAStruct => "Bundle can only be derived for structs"
  | .fieldsNotNamed => "Bundle can only be derived for structs with named fields"
  | .argumentsMissing => "expected attribute arguments in parentheses: #[metric(...)]"
  | .listMissing => "expected parentheses: #[metric(...)]"
  | .itemMissing => "unexpected end of input, expected nested attribute"
  | .itemIsLiteral => "unexpected literal in nested attribute, expected ident"
  | .itemMalformed => "unexpected token in nested attribute, expected ident"
  | .identMissing atEnd =>
    if atEnd then "unexpected end of input, expected ident" else "expected ident"
  | .unknownKey key => "unknown metric attribute '" ++ key ++ "'"
  | .equalsMissing => "expected `=`"
  | .literalMissing atEnd =>
    if atEnd then "unexpected end of input, expected literal" else "expected literal"
  | .wrongLiteral => "expected a string or a number"
  | .repeatedTag tag => "duplicate metric attribute '" ++ tag.key ++ "'"
  | .commaMissing => "expected `,`"
  | .skippedNotOptional =>
    "a skipped metric field must be an Option, since metric handles have no default"

/-- What follows the path of an attribute. -/
inductive AttributeArguments where
  | none
  /-- The tokens between delimiters. -/
  | list (items : List Token)
  /-- An equals sign and an expression. -/
  | value
deriving DecidableEq

/-- An attribute, with the tokens of its path. -/
structure Attribute where
  path : List Token
  arguments : AttributeArguments
deriving DecidableEq

namespace Attribute

/-- The path of attributes that tag a metric. -/
def metricPath : List Token := [.ident "metric".toList]

/-- The bare key that ignores a field. -/
def skipKey : List Char := "skip".toList

/-- Passes over the names that follow the first one of a path, and tells whether there are some.
`last` tells that no item follows. -/
def skipNames (last : Bool) : List Token → Except DeclarationFault (List Token × Bool)
  | .punct ':' true :: .punct ':' _ :: .ident _ :: ts =>
    (skipNames last ts).map fun (rest, _) => (rest, true)
  | .punct ':' true :: .punct ':' _ :: ts => .error (.identMissing (last && ts.isEmpty))
  | ts => .ok (ts, false)

/-- There is no name at the front of an item or after a separator there. -/
def nameMissing (last : Bool) (ts : List Token) : DeclarationFault :=
  if last && ts.isEmpty then .itemMissing
  else if Token.startsWithLiteral ts then .itemIsLiteral
  else .itemMalformed

/-- The key at the front of an item, and what follows it. A path that is more than one name has no
key; its place is taken by an empty one. -/
def readKey (last : Bool) : List Token → Except DeclarationFault (List Char × List Token)
  | .ident name :: ts =>
    (skipNames last ts).map fun (rest, longer) => (if longer then [] else plainIdent name, rest)
  | .punct ':' true :: .punct ':' _ :: .ident _ :: ts =>
    (skipNames last ts).map fun (rest, _) => ([], rest)
  | .punct ':' true :: .punct ':' _ :: ts => .error (nameMissing last ts)
  | ts => .error (nameMissing last ts)

/-- The value of a literal that a tag can have. -/
def literalValue : Literal → Except DeclarationFault (List Char)
  | .text value => .ok value
  | .integer digits => .ok digits
  | .float digits => .ok digits
  | .other => .error .wrongLiteral

/-- The literal after an equals sign, and what follows it. -/
def readValue (last : Bool) : List Token → Except DeclarationFault (List Char × List Token)
  | .punct '=' _ :: ts =>
    match ts with
    | .literal _ value :: rest => (literalValue value).map fun v => (v, rest)
    | .punct '-' _ :: .literal _ (.integer digits) :: rest => .ok ('-' :: digits, rest)
    | .punct '-' _ :: .literal _ (.float digits) :: rest => .ok ('-' :: digits, rest)
    | .ident name :: _ =>
      if name = "true".toList ∨ name = "false".toList then .error .wrongLiteral
      else .error (.literalMissing false)
    | [] => .error (.literalMissing last)
    | _ => .error (.literalMissing false)
  | _ => .error .equalsMissing

/-- The tag that an item gives, and what is left of the item. -/
def readItem (last : Bool) (ts : List Token) :
    Except DeclarationFault ((Tag × String) × List Token) :=
  match readKey last ts with
  | .error fault => .error fault
  | .ok (key, rest) =>
    if key = skipKey then .ok ((.ignore, Tag.ignored), rest)
    else
      match Tag.ofKey? (String.ofList key) with
      | none => .error (.unknownKey (String.ofList key))
      | some tag =>
        match readValue last rest with
        | .error fault => .error fault
        | .ok (value, rest) => .ok ((tag, String.ofList value), rest)

/-- Reads items onto the tags of the field. Nothing may be left of an item; after the last comma
there need not be another one. -/
def readItems (tags : List (Tag × String)) :
    List (List Token) → Except DeclarationFault (List (Tag × String))
  | [] => .ok tags
  | item :: others =>
    if item = [] ∧ others = [] then .ok tags
    else
      match readItem others.isEmpty item with
      | .error fault => .error fault
      | .ok (entry, rest) =>
        if tags.any (·.1 == entry.1) then .error (.repeatedTag entry.1)
        else if rest.isEmpty then readItems (tags ++ [entry]) others
        else .error .commaMissing

/-- Reads attributes onto the tags of the field; those with another path are passed over. -/
def readAll (tags : List (Tag × String)) :
    List Attribute → Except DeclarationFault (List (Tag × String))
  | [] => .ok tags
  | a :: others =>
    if a.path = metricPath then
      match a.arguments with
      | .none => .error .argumentsMissing
      | .value => .error .listMissing
      | .list items =>
        match readItems tags (Token.splitCommas 0 items) with
        | .error fault => .error fault
        | .ok tags => readAll tags others
    else readAll tags others

end Attribute

end MetricBundle
