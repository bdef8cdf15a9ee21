import MetricBundle.Declaration.Grammar
import MetricBundle.Text.Quoted

/-!
# Declarations in source text

A declaration whose parts are given as texts: the types of its fields, the paths of its attributes,
and the keys and values of their items. The texts are divided into tokens, put together to the
tokens of the whole declaration, and read by its grammar.
-/

namespace MetricBundle

/-- An item of an attribute's list, as written. -/
inductive SourceItem where
  /-- A key alone. -/
  | bare (key : String)
  /-- A key and a string, given by what it says. -/
  | text (key value : String)
  /-- A key and the source of a value. -/
  | value (key source : String)

/-- An attribute as written, with the items in its parentheses if it has some. -/
structure SourceAttribute where
  path : String
  items : Option (List SourceItem)

structure SourceField where
  ident : String
  type : String
  attributes : List SourceAttribute

/-- A declaration as written. -/
structure SourceDeclaration where
  form : ItemForm
  name : String
  fields : List SourceField

namespace SourceDeclaration

/-- The tokens of a part. -/
def readText (s : String) : Option (List Token) := Token.read s.toList

/-- The tokens of an item. -/
def itemTokens : SourceItem → Option (List Token)
  | .bare key => readText key
  | .text key value => do
    let key ← readText key
    return key ++ [.punct '=' false, .literal (quote value).toList (.text value.toList)]
  | .value key source => do
    return (← readText key) ++ .punct '=' false :: (← readText source)

/-- Parts with commas between them. -/
def withCommas (parts : List (List Token)) : List Token :=
  [.punct ',' false].intercalate parts

/-- Tokens in delimiters. -/
def delimited (opening closing : Char) (inside : List Token) : List Token :=
  .opening opening :: inside ++ [.closing closing]

/-- The tokens of an attribute. -/
def attributeTokens (a : SourceAttribute) : Option (List Token) := do
  let path ← readText a.path
  let items ←
    match a.items with
    | none => pure []
    | some items => pure (delimited '(' ')' (withCommas (← items.mapM itemTokens)))
  return .punct '#' false :: delimited '[' ']' (path ++ items)

/-- The tokens of a field, with its identifier if fields are named. -/
def fieldTokens (isNamed : Bool) (f : SourceField) : Option (List Token) := do
  let attributes ← f.attributes.mapM attributeTokens
  let ident ← if isNamed then readText f.ident else pure []
  let colon := if isNamed then [.punct ':' false] else []
  return attributes.flatten ++ ident ++ colon ++ (← readText f.type)

/-- The tokens of all fields. -/
def fieldsTokens (d : SourceDeclaration) (isNamed : Bool) : Option (List Token) := do
  return withCommas (← d.fields.mapM (fieldTokens isNamed))

/-- The tokens of the keyword that begins a declaration and of what follows the name. -/
def keywordAndRest (d : SourceDeclaration) : Option (String × List Token) := do
  match d.form with
  | .namedStruct => return ("struct", delimited '\x7b' '\x7d' (← d.fieldsTokens true))
  | .tupleStruct =>
    return ("struct", delimited '(' ')' (← d.fieldsTokens false) ++ [.punct ';' false])
  | .unitStruct => return ("struct", [.punct ';' false])
  | .enumeration =>
    let variants := withCommas [[.ident ['A']], [.ident ['B']]]
    return ("enum", delimited '\x7b' '\x7d' variants)
  | .union => return ("union", delimited '\x7b' '\x7d' (← d.fieldsTokens true))

/-- The tokens of the whole declaration. -/
def tokens (d : SourceDeclaration) : Option (List Token) := do
  let (keyword, rest) ← d.keywordAndRest
  return .ident keyword.toList :: (← readText d.name) ++ rest

/-- The declared item, if the declaration can be read. -/
def read (d : SourceDeclaration) : Option Item := do
  Grammar.readDeclaration (← d.tokens)

end SourceDeclaration

end MetricBundle
