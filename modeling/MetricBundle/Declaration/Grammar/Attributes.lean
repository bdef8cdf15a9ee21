import MetricBundle.Declaration.Attribute
import MetricBundle.Declaration.Phrase

/-!
# Attributes

An attribute has a path without arguments. What follows it is kept as it is written if it stands in
delimiters, and is an expression after an equals sign.
-/

namespace MetricBundle.Grammar

open Token Reader

variable (read : Readings)

/-- The names of a path that has no arguments. -/
def plainNames : Reader (List Token) :=
  inOrder [maybeSymbol "::", firstName, many (starts "::") (inOrder [symbol "::", firstName])]
where
  firstName : Reader (List Token) :=
    takeIf fun t => isName t || startsAnyWord ["super", "self", "Self", "crate"] [t]

/-- The path of an attribute. -/
def attributePath : Reader (List Token) := do
  if startsWord "unsafe" (← remaining) then word "unsafe" else plainNames

/-- What follows the path of an attribute, and its tokens. -/
def attributeArguments : Reader (AttributeArguments × List Token) := do
  let ts ← remaining
  if opensAny ts then
    let all ← group
    return (.list (all.drop 1).dropLast, all)
  else if starts "=" ts then
    let all ← inOrder [symbol "=", read.expressionTokens true]
    return (.value, all)
  else return (.none, [])

/-- An attribute of what follows it, or of what encloses it if `inner` holds; and its tokens. -/
def oneAttribute (inner : Bool) : Reader (Attribute × List Token) := do
  let mark ← inOrder [symbol "#", if inner then symbol "!" else return []]
  let opening ← takeIf fun t => opens '[' [t]
  let path ← attributePath
  let (arguments, rest) ← attributeArguments read
  let closing ← takeIf fun t => ended [t]
  return (⟨path, arguments⟩, mark ++ opening ++ path ++ rest ++ closing)

/-- An attribute of what follows is at the front. -/
def startsOuter (ts : List Token) : Bool := starts "#" ts && opens '[' (ts.drop 1)

/-- An attribute of what encloses it is at the front. -/
def startsInner (ts : List Token) : Bool := starts "#" ts && starts "!" (ts.drop 1)

/-- Attributes of what follows them, with their tokens. -/
def attributeList : Reader (List (Attribute × List Token)) :=
  collect startsOuter (oneAttribute read false)

/-- The tokens of attributes of what follows them. -/
def outerAttributes : Reader (List Token) :=
  many startsOuter (return (← oneAttribute read false).2)

/-- The tokens of attributes of what encloses them. -/
def innerAttributes : Reader (List Token) :=
  many startsInner (return (← oneAttribute read true).2)

end MetricBundle.Grammar
