import MetricBundle.Declaration.Grammar.Path

/-!
# Types
-/

namespace MetricBundle.Grammar

open Token Reader

variable (read : Readings)

/-- Bounds after the first one, if they may be added. -/
def moreBounds (plus : Bool) : Reader (List Token) :=
  onlyIf (fun ts => plus && starts "+" ts) (inOrder [symbol "+", bounds read true])

/-- A type in parentheses, several types, or a first bound in parentheses with others after it. -/
def parenthesizedType (plus : Bool) : Reader Phrase := do
  let opening ← takeIf fun t => opens '(' [t]
  let inside ← remaining
  if starts "?" inside then
    let first ← traitBound read
    let closing ← takeIf fun t => ended [t]
    let others ← moreBounds read true
    return { tokens := opening ++ first.1 ++ closing ++ others }
  else
    let types ← parts "," ended (read.typeTokens true)
    let closing ← takeIf fun t => ended [t]
    let list := types.flatMap fun (type, after) => type ++ after
    match types with
    | [(_, [])] =>
      let others ← moreBounds read plus
      return {
        tokens := opening ++ list ++ closing ++ others
        form := if others.isEmpty then .parenthesized else .other }
    | _ => return { tokens := opening ++ list ++ closing }

/-! ## Functions -/

/-- The calling convention of a function, if there is one. -/
def convention : Reader (List Token) :=
  onlyIf (startsWord "extern") (inOrder [word "extern", onlyIf startsString constant])

/-- A variable number of arguments comes next, possibly with a name. -/
def startsVariadic (ts : List Token) : Bool :=
  starts "..." ts
    || ((startsName ts || startsWord "_" ts) && starts ":" (ts.drop 1) && starts "..." (ts.drop 2))

/-- A name and a colon come next. -/
def startsNamed (ts : List Token) : Bool :=
  (startsName ts || startsAnyWord ["_", "self"] ts) && startsColon (ts.drop 1)

/-- The type of an argument, possibly with a name. An argument that can change itself is kept as it
is written. -/
def typeArgumentOf : Reader (List Token) := do
  let ts ← remaining
  if startsWord "mut" ts then
    asWritten (inOrder [word "mut", word "self",
      onlyIf startsColon (inOrder [symbol ":", read.typeTokens true])])
  else
    inOrder [onlyIf startsNamed (inOrder [ident, symbol ":"]),
      do
        if startsWord "mut" (← remaining) then inOrder [word "mut", word "self"]
        else read.typeTokens true]

/-- An argument of the type of a function. -/
def functionArgument : Reader (List Token) := do
  let attributes ← outerAttributes read
  if startsVariadic (← remaining) then
    let rest ← inOrder [onlyIf startsIdent (inOrder [ident, symbol ":"]), symbol "..."]
    return attributes ++ rest
  else return attributes ++ (← typeArgumentOf read)

/-- The type of a function. -/
def functionType : Reader (List Token) :=
  inOrder [maybeWord "unsafe", convention, word "fn",
    enclosed '(' (commaList (functionArgument read)), returnType read false]

/-! ## All types -/

/-- Something built in is used. -/
def startsBuiltin (ts : List Token) : Bool := startsWord "builtin" ts && starts "#" (ts.drop 1)

/-- A use of something built in, which is kept as it is written. -/
def builtin : Reader Phrase := do
  let tokens ← inOrder [word "builtin", symbol "#", name, group]
  return { tokens, form := .written }

/-- A path can begin here. -/
def startsPath (ts : List Token) : Bool :=
  startsName ts || startsAnyWord ["super", "self", "Self", "crate"] ts || starts "::" ts
    || starts "<" ts

/-- A path as a type, the use of a macro, or bounds that begin with a path. -/
def namedType (plus : Bool) : Reader Phrase := do
  let p ← typePath read
  let ts ← remaining
  if p.form.isSimple && starts "!" ts && !starts "!=" ts then
    let rest ← inOrder [symbol "!", group]
    return { tokens := p.tokens ++ rest }
  else
    let others ← if p.form.qualified then pure [] else moreBounds read plus
    return { tokens := p.tokens ++ others, form := if others.isEmpty then .path p.form else .other }

/-- An object type. A starred one is kept as it is written. -/
def objectType (plus : Bool) : Reader (List Token) := do
  let start ← remaining
  let first ← word "dyn"
  let star ← maybeSymbol "*"
  let rest ← bounds read plus
  if star.isEmpty then return first ++ rest else since start

/-- An array or a slice. -/
def bracketType : Reader (List Token) :=
  enclosed '[' (inOrder [read.typeTokens true,
    onlyIf (starts ";") (inOrder [symbol ";", read.expressionTokens true])])

def pointerType : Reader (List Token) :=
  inOrder [symbol "*", do if startsWord "mut" (← remaining) then word "mut" else word "const",
    read.typeTokens false]

def referenceType : Reader (List Token) :=
  inOrder [symbol "&", onlyIf startsLifetime lifetime, maybeWord "mut", read.typeTokens false]

/-- A type that is neither a path nor in parentheses. -/
def otherType (plus : Bool) : Reader (List Token) := do
  let ts ← remaining
  if startsAnyWord ["fn", "unsafe", "extern"] ts then functionType read
  else if startsWord "dyn" ts then objectType read plus
  else if startsWord "impl" ts then inOrder [word "impl", bounds read plus]
  else if startsWord "_" ts then word "_"
  else if opens '[' ts then bracketType read
  else if starts "*" ts then pointerType read
  else if starts "&" ts then referenceType read
  else if starts "!" ts then symbol "!"
  else if startsLifetime ts then bounds read plus
  else failure

/-- A type. Lifetimes that are bound for a path make it a bound. -/
def type (plus : Bool) : Reader Phrase := do
  let lifetimes ← maybeBinder read
  let ts ← remaining
  if opens '(' ts then parenthesizedType read plus
  else if startsBuiltin ts then return { ← builtin with form := .other }
  else if startsPath ts then
    let named ← namedType read plus
    if lifetimes.isEmpty then return named
    else return { tokens := lifetimes ++ named.tokens }
  else return { tokens := lifetimes ++ (← otherType read plus) }

end MetricBundle.Grammar
