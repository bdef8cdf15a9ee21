import MetricBundle.Declaration.Grammar.Item
import MetricBundle.Declaration.Item

/-!
# Reading declarations

The readings of the kinds of phrases, each in terms of the others, are tied together here. Of
phrases that are nested one in the other at most two begin together, so the depth of the nesting is
bounded by the number of tokens.
-/

namespace MetricBundle.Grammar

open Token Reader

/-- A phrase of the given kind, in terms of the phrases inside it. -/
def phrase (read : Readings) : Readings
  | .type plus => type read plus
  | .bound => bound read
  | .pattern => pattern read
  | .expression braces => expression read braces
  | .operand braces => operand read braces
  | .body => body read
  | .block => block read
  | .item => item read

/-- A phrase of the given kind, inside of which others are nested no deeper than the fuel. -/
def phraseWith : (fuel : Nat) → Readings
  | 0, _ => failure
  | fuel + 1, category => phrase (phraseWith fuel) category

/-- A field with a name. -/
def declaredField (read : Readings) : Reader DeclaredField := do
  let attributes ← attributeList read
  let _ ← visibility
  let blank := startsWord "_" (← remaining)
  let ident ← nameOrBlank
  let _ ← symbol ":"
  let type ← namedFieldType read blank
  return ⟨denseSource ident, type, attributes.map (·.1)⟩

/-- What follows the name of a struct: the form of the struct, and its fields if they have names. -/
def structFields (read : Readings) : Reader (ItemForm × List DeclaredField) := do
  let _ ← inOrder [parameters read, conditions read]
  let ts ← remaining
  if opens '{' ts then
    let _ ← takeIf fun t => opens '{' [t]
    let fields ← parts "," ended (declaredField read)
    let _ ← takeIf fun t => ended [t]
    return (.namedStruct, fields.map (·.1))
  else if opens '(' ts then
    let _ ← inOrder [tupleFields read, conditions read, symbol ";"]
    return (.tupleStruct, [])
  else
    let _ ← symbol ";"
    return (.unitStruct, [])

/-- A declaration. -/
def declaration (read : Readings) : Reader Item := do
  let _ ← inOrder [outerAttributes read, visibility]
  let ts ← remaining
  if startsWord "struct" ts then
    let _ ← word "struct"
    let ident ← name
    let (form, fields) ← structFields read
    return ⟨form, denseSource ident, fields⟩
  else if startsWord "enum" ts then
    let _ ← enumItem read
    return ⟨.enumeration, denseSource ((ts.drop 1).take 1), []⟩
  else
    let _ ← unionItem read
    return ⟨.union, denseSource ((ts.drop 1).take 1), []⟩

/-- The declaration that a list of tokens is. -/
def readDeclaration (ts : List Token) : Option Item :=
  if matched [] ts then
    match (declaration (phraseWith (2 * (ts.length + 1)))).run ts with
    | some (item, []) => some item
    | _ => none
  else none

end MetricBundle.Grammar
