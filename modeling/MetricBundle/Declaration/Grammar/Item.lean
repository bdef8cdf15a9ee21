import MetricBundle.Declaration.Grammar.Expression

/-!
# Items and statements

Some items are accepted although they mean nothing, such as a constant without a value. They are
kept as they are written, with their attributes.
-/

namespace MetricBundle.Grammar

open Token Reader

variable (read : Readings)

/-- The given tokens, or what has been taken since the start if that is to be kept. -/
def unlessKept (kept : Bool) (start tokens : List Token) : Reader (List Token) :=
  if kept then since start else return tokens

/-! ## Fields -/

/-- A visibility is restricted here, rather than that a type in parentheses follows. -/
def startsRestriction (ts : List Token) : Bool :=
  opens '(' ts
    && (startsWord "in" (ts.drop 1)
      || startsAnyWord ["crate", "self", "super"] (ts.drop 1) && ended (ts.drop 2))

/-- The visibility of an item or a field, if it has one. -/
def visibility : Reader (List Token) :=
  onlyIf (startsWord "pub") (inOrder [word "pub", onlyIf startsRestriction group])

/-- A name, or the underscore in its place. -/
def nameOrBlank : Reader (List Token) := do
  if startsWord "_" (← remaining) then ident else name

/-- A field without a name that has fields of its own comes next. -/
def startsInnerFields (ts : List Token) : Bool :=
  startsAnyWord ["struct", "union"] ts && opens '{' (ts.drop 1)

/-- The type of a field with a name. -/
def namedFieldType (blank : Bool) : Reader Phrase := do
  if blank && startsInnerFields (← remaining) then return { tokens := ← inOrder [ident, group] }
  else read (.type true)

/-- A field with a name. -/
def namedField : Reader (List Token) :=
  inOrder [outerAttributes read, visibility, do
    let blank := startsWord "_" (← remaining)
    inOrder [nameOrBlank, symbol ":", return (← namedFieldType read blank).tokens]]

def namedFields : Reader (List Token) := enclosed '{' (commaList (namedField read))

/-- Fields without names. -/
def tupleFields : Reader (List Token) :=
  enclosed '(' (commaList (inOrder [outerAttributes read, visibility, read.typeTokens true]))

/-! ## Functions -/

/-- A function is declared here. -/
def startsFunction (ts : List Token) : Bool :=
  let ts := dropWord "async" (dropWord "const" ts)
  let ts := if startsWord "unsafe" ts then ts.drop 1 else dropWord "safe" ts
  let ts :=
    if startsWord "extern" ts then
      let ts := ts.drop 1
      if startsString ts then ts.drop 1 else ts
    else ts
  startsWord "fn" ts

/-- A function's own object comes next. -/
def startsReceiver (ts : List Token) : Bool :=
  let ts :=
    if starts "&" ts then
      let ts := ts.drop 1
      if startsLifetime ts then afterOne ts else ts
    else ts
  let ts := dropWord "mut" ts
  startsWord "self" ts && !starts "::" (ts.drop 1)

/-- A function's own object, with its type unless it is a reference. -/
def receiver : Reader (List Token) := do
  let reference ← onlyIf (starts "&") (inOrder [symbol "&", onlyIf startsLifetime lifetime])
  let rest ← inOrder [maybeWord "mut", word "self",
    onlyIf (fun ts => reference.isEmpty && starts ":" ts)
      (inOrder [symbol ":", read.typeTokens true])]
  return reference ++ rest

/-- A parameter of a function. A type alone that is a name with arguments gets a blank pattern. -/
def functionParameter : Reader (List Token) :=
  inOrder [outerAttributes read, do
    let ts ← remaining
    if starts "..." ts then symbol "..."
    else if startsReceiver ts then receiver read
    else if startsName ts && starts "<" (ts.drop 1) then
      return .ident ['_'] :: .punct ':' false :: (← read.typeTokens true)
    else
      inOrder [read.patternTokens, symbol ":",
        do if starts "..." (← remaining) then symbol "..." else read.typeTokens true]]

/-- A function up to its block. -/
def functionHead : Reader (List Token) :=
  inOrder [maybeWord "const", maybeWord "async",
    do if startsWord "unsafe" (← remaining) then word "unsafe" else maybeWord "safe",
    convention, word "fn", name, parameters read,
    enclosed '(' (commaList (functionParameter read)), returnType read true, conditions read]

/-! ## Constants, types and uses of macros -/

/-- A value after an equals sign, if there is one. -/
def maybeValue : Reader (List Token) :=
  onlyIf (starts "=") (inOrder [symbol "=", read.expressionTokens true])

/-- A constant; and whether it is to be kept as it is written, since it has parameters or
conditions, or no type, or no value where it needs one. -/
def constantItem (needsValue : Bool) : Reader (List Token × Bool) := do
  let first ← inOrder [word "const", nameOrBlank]
  let general := starts "<" (← remaining)
  let list ← parameters read
  let typed := starts ":" (← remaining)
  let type ← onlyIf (starts ":") (inOrder [symbol ":", read.typeTokens true])
  let value ← maybeValue read
  let conditioned := startsWord "where" (← remaining)
  let rest ← inOrder [conditions read, symbol ";"]
  let kept := general || conditioned || !typed || (needsValue && value.isEmpty)
  return (first ++ list ++ type ++ value ++ rest, kept)

/-- The name of a type with what it stands for; and whether it is bounded and whether it stands for
something. -/
def typeItem : Reader (List Token × Bool × Bool) := do
  let first ← inOrder [word "type", name, parameters read]
  let bounded := starts ":" (← remaining)
  let bounds ←
    colonBounds (fun ts => startsWord "where" ts || starts "=" ts || starts ";" ts) read.boundTokens
  let before ← conditions read
  let definition ← onlyIf (starts "=") (inOrder [symbol "=", read.typeTokens true])
  let rest ← inOrder [conditions read, symbol ";"]
  return (first ++ bounds ++ before ++ definition ++ rest, bounded, !definition.isEmpty)

/-- The use of a macro as an item. -/
def macroItem : Reader (List Token) :=
  inOrder [plainNames, symbol "!", onlyIf startsIdent ident, group, maybeSymbol ";"]

/-! ## What belongs to traits, implementations and other libraries -/

/-- The block of a function, or a semicolon in its place. -/
def maybeBlock : Reader (List Token) := do
  if starts ";" (← remaining) then symbol ";" else read.blockTokens

/-- Part of a trait. With a visibility or a default mark it is kept as it is written. -/
def traitPart : Reader (List Token) := do
  let start ← remaining
  let attributes ← outerAttributes read
  let marks ← inOrder [visibility, maybeWord "default"]
  let ts ← remaining
  let (rest, kept) ←
    if startsFunction ts then
      pure (← inOrder [functionHead read, maybeBlock read], false)
    else if startsWord "const" ts then constantItem read false
    else if startsWord "type" ts then
      let (tokens, _) ← typeItem read
      pure (tokens, false)
    else pure (← macroItem, false)
  unlessKept (kept || !marks.isEmpty) start (attributes ++ rest)

/-- A mark that what follows may be replaced comes next. -/
def startsDefault (ts : List Token) : Bool := startsWord "default" ts && !starts "!" (ts.drop 1)

/-- Part of an implementation. -/
def implementationPart : Reader (List Token) := do
  let start ← remaining
  let first ← inOrder [outerAttributes read, visibility, onlyIf startsDefault (word "default")]
  let ts ← remaining
  let (rest, kept) ←
    if startsFunction ts then
      let head ← functionHead read
      let kept := starts ";" (← remaining)
      pure (head ++ (← maybeBlock read), kept)
    else if startsWord "const" ts then constantItem read true
    else if startsWord "type" ts then
      let (tokens, bounded, defined) ← typeItem read
      pure (tokens, bounded || !defined)
    else pure (← macroItem, false)
  unlessKept kept start (first ++ rest)

/-- Something static, up to its value. -/
def staticHead : Reader (List Token) :=
  inOrder [word "static", maybeWord "mut", name, onlyIf (starts ":")
    (inOrder [symbol ":", read.typeTokens true])]

/-- Part of what another library provides. -/
def foreignPart : Reader (List Token) := do
  let start ← remaining
  let first ← inOrder [outerAttributes read, visibility]
  let ts ← remaining
  let marked := startsAnyWord ["unsafe", "safe"] ts
  let (rest, kept) ←
    if startsFunction ts then
      let safe := startsWord "safe" (dropWord "async" (dropWord "const" ts))
      let head ← functionHead read
      let kept := safe || opens '{' (← remaining)
      pure (head ++ (← maybeBlock read), kept)
    else if startsWord "static" ts || (marked && startsWord "static" (ts.drop 1)) then
      let head ← inOrder [if marked then ident else return [], staticHead read]
      let kept := marked || starts "=" (← remaining)
      pure (head ++ (← inOrder [maybeValue read, symbol ";"]), kept)
    else if startsWord "type" ts then
      let (tokens, bounded, defined) ← typeItem read
      pure (tokens, bounded || defined)
    else pure (← macroItem, false)
  unlessKept kept start (first ++ rest)

/-- Parts in braces, after attributes of what encloses them. -/
def braced (part : Reader (List Token)) : Reader (List Token) :=
  enclosed '{' (inOrder [innerAttributes read, many (fun ts => !ended ts) part])

/-! ## Items -/

def structItem : Reader (List Token) :=
  inOrder [word "struct", name, parameters read, conditions read, do
    let ts ← remaining
    if opens '(' ts then inOrder [tupleFields read, conditions read, symbol ";"]
    else if opens '{' ts then namedFields read
    else symbol ";"]

/-- A variant of an enumeration. A visibility of it is left out. -/
def variant : Reader (List Token) := do
  let attributes ← outerAttributes read
  let _ ← visibility
  let rest ← inOrder [name, do
    let ts ← remaining
    if opens '{' ts then namedFields read
    else if opens '(' ts then tupleFields read
    else return [], maybeValue read]
  return attributes ++ rest

def enumItem : Reader (List Token) :=
  inOrder [word "enum", name, parameters read, conditions read,
    enclosed '{' (commaList (variant read))]

def unionItem : Reader (List Token) :=
  inOrder [word "union", name, parameters read, conditions read, namedFields read]

/-- A trait, or a name for bounds. -/
def traitItem : Reader (List Token) := do
  let first ← inOrder [maybeWord "unsafe", maybeWord "auto", word "trait", name, parameters read]
  if starts "=" (← remaining) then
    return first ++ (← inOrder [symbol "=",
      boundsUntil read fun ts => startsWord "where" ts || starts ";" ts, conditions read,
      symbol ";"])
  else
    return first ++ (← inOrder [
      colonBounds (fun ts => startsWord "where" ts || opens '{' ts) read.boundTokens,
      conditions read, braced read (traitPart read)])

/-- Parameters come next, rather than a path that begins with a type. -/
def startsParameters (ts : List Token) : Bool :=
  let second := ts.drop 1
  let third := afterOne second
  starts "<" ts
    && (starts ">" second || starts "#" second || startsWord "const" second
      || (startsLifetime second || startsName second)
        && (endsArgument third || startsColon third || starts "=" third))

/-- An implementation; and whether it is to be kept as it is written. -/
def implementation : Reader (List Token × Bool) := do
  let first ← inOrder [onlyIf startsDefault (word "default"), maybeWord "unsafe", word "impl",
    onlyIf startsParameters (parameters read)]
  let mark ← do
    let ts ← remaining
    if startsWord "const" ts then word "const"
    else if starts "?" ts then inOrder [symbol "?", word "const"]
    else pure []
  let negation ← onlyIf (fun ts => starts "!" ts && !opens '{' (ts.drop 1)) (symbol "!")
  let type ← read (.type true)
  let named :=
    match type.form with
    | .path p => !p.qualified
    | _ => false
  let target := startsWord "for" (← remaining)
  let rest ← inOrder [onlyIf (startsWord "for") (inOrder [word "for", read.typeTokens true]),
    conditions read, braced read (implementationPart read)]
  return (first ++ mark ++ negation ++ type.tokens ++ rest,
    !mark.isEmpty || (target && !named))

/-- What another library provides. -/
def foreignItem : Reader (List Token) :=
  inOrder [maybeWord "unsafe", convention, braced read (foreignPart read)]

def moduleItem : Reader (List Token) :=
  inOrder [maybeWord "unsafe", word "mod", name,
    do if starts ";" (← remaining) then symbol ";" else braced read read.itemTokens]

/-- Names that are used or linked, up to the semicolon. -/
def nameItem : Reader (List Token) :=
  inOrder [many (fun ts => !starts ";" ts && !ended ts) tree, symbol ";"]

/-- The definition of a macro. -/
def macroDefinition : Reader (List Token) :=
  inOrder [word "macro", name, onlyIf (opens '(') group, group]

/-- An item after its attributes and its visibility; and whether it is to be kept as it is
written. -/
def itemRest : Reader (List Token × Bool) := do
  let ts ← remaining
  let next := if startsAnyWord ["unsafe", "auto"] ts then ts.drop 1 else ts
  if startsFunction ts then
    let head ← functionHead read
    let kept := starts ";" (← remaining)
    return (head ++ (← maybeBlock read), kept)
  else if startsWord "use" ts || (startsWord "extern" ts && startsWord "crate" next.tail) then
    return (← nameItem, false)
  else if startsWord "extern" next then return (← foreignItem read, false)
  else if startsWord "static" ts then
    let head ← staticHead read
    let value ← maybeValue read
    let typed := head.any (isPunct ':')
    return (head ++ value ++ (← symbol ";"), value.isEmpty || !typed)
  else if startsWord "const" ts then constantItem read true
  else if startsAnyWord ["trait", "auto"] next then return (← traitItem read, false)
  else if startsWord "impl" next || startsDefault ts then implementation read
  else if startsWord "mod" next then return (← moduleItem read, false)
  else if startsWord "type" ts then
    let (tokens, bounded, defined) ← typeItem read
    return (tokens, bounded || !defined)
  else if startsWord "struct" ts then return (← structItem read, false)
  else if startsWord "enum" ts then return (← enumItem read, false)
  else if startsWord "union" ts && startsName (ts.drop 1) then return (← unionItem read, false)
  else if startsWord "macro" ts then return (← macroDefinition, true)
  else return (← macroItem, false)

/-- An item after its attributes. An implementation has no visibility. -/
def itemAfter (start attributes : List Token) : Reader (List Token) := do
  let mark ← visibility
  let ts ← remaining
  let (rest, kept) ← itemRest read
  let unseen := !mark.isEmpty && (startsAnyWord ["impl", "default"] ts
    || startsWord "unsafe" ts && startsWord "impl" (ts.drop 1))
  unlessKept (kept || unseen) start (attributes ++ mark ++ rest)

def item : Reader Phrase := do
  let start ← remaining
  let attributes ← outerAttributes read
  return { tokens := ← itemAfter read start attributes }

/-! ## Statements -/

/-- The rest of a list of tokens after the use of a macro up to its exclamation mark, if that is at
the front. -/
def afterMacroMark? (ts : List Token) : Option (List Token) :=
  match plainNames.run ts with
  | some (_, rest) => if starts "!" rest then some (rest.drop 1) else none
  | none => none

/-- The use of a macro that is an item comes next. -/
def startsMacroItem (ts : List Token) : Bool :=
  (afterMacroMark? ts).any fun rest => startsName rest || startsWord "try" rest

/-- The use of a macro with braces that is a statement comes next. -/
def startsMacroStatement (ts : List Token) : Bool :=
  (afterMacroMark? ts).any fun rest =>
    opens '{' rest
      && (group.run rest).any fun (_, after) =>
        !(starts "?" after || (starts "." after && !starts ".." after))

/-- An item is a statement here. -/
def startsItem (ts : List Token) : Bool :=
  let second := ts.drop 1
  let third := ts.drop 2
  startsAnyWord ["pub", "extern", "use", "fn", "mod", "type", "struct", "enum", "trait", "impl",
      "macro"] ts
    || (startsWord "crate" ts && !starts "::" second)
    || (startsWord "static" ts && (startsWord "mut" second || startsName second))
    || (startsWord "const" ts
      && !(opens '{' second || startsAnyWord ["static", "move"] second || starts "|" second
        || (startsWord "async" second && !startsAnyWord ["unsafe", "extern", "fn"] third)))
    || (startsWord "unsafe" ts && !opens '{' second)
    || (startsWord "async" ts && startsAnyWord ["unsafe", "extern", "fn"] second)
    || (startsWord "union" ts && startsName second)
    || (startsWord "auto" ts && startsWord "trait" second)
    || (startsWord "default" ts && startsAnyWord ["unsafe", "impl"] second)
    || startsMacroItem ts

/-- A statement that names what it binds. -/
def binding : Reader (List Token) :=
  inOrder [word "let", read.patternTokens,
    onlyIf (starts ":") (inOrder [symbol ":", read.typeTokens true]), maybeValue read,
    onlyIf (startsWord "else") (inOrder [word "else", read.blockTokens]), symbol ";"]

/-- A statement. -/
def statement : Reader (List Token) := do
  let start ← remaining
  if starts ";" start then symbol ";"
  else
    let attributes ← outerAttributes read
    let ts ← remaining
    if startsMacroStatement ts then
      return attributes ++ (← inOrder [plainNames, symbol "!", group, maybeSymbol ";"])
    else if startsWord "let" ts then return attributes ++ (← binding read)
    else if startsItem ts then itemAfter read start attributes
    else
      let tokens := attributed attributes (← body read)
      return tokens ++ (← maybeSymbol ";")

/-- Statements in braces. -/
def block : Reader Phrase := return { tokens := ← braced read (statement read) }

end MetricBundle.Grammar
