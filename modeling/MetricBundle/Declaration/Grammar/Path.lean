import MetricBundle.Declaration.Grammar.Attributes

/-!
# Paths, bounds and parameters

What stands in angle brackets: the arguments of a path, and the parameters of what is declared. Each
list is given its standard order. Bounds contain paths, and both contain types.
-/

namespace MetricBundle.Grammar

open Token Reader

variable (read : Readings)

/-! ## Bounds -/

/-- Bounds with plus signs between them. -/
def boundsUntil (stop : List Token → Bool) : Reader (List Token) :=
  separated "+" stop read.boundTokens

/-- A colon and bounds, of which nothing is left if there are no bounds. -/
def colonBounds (stop : List Token → Bool) (one : Reader (List Token)) : Reader (List Token) := do
  if starts ":" (← remaining) then
    let colon ← symbol ":"
    let bounds ← separated "+" stop one
    return if bounds.isEmpty then [] else colon ++ bounds
  else return []

/-- A bound can begin here. -/
def startsBound (ts : List Token) : Bool :=
  startsIdent ts || starts "::" ts || starts "?" ts || startsLifetime ts || opens '(' ts
    || opens '[' ts

/-- Several bounds if they may be added to after a plus sign, and a single one otherwise. -/
def bounds (plus : Bool) : Reader (List Token) :=
  if plus then boundsUntil read fun ts => !startsBound ts else read.boundTokens

/-! ## Arguments -/

/-- The return type after an arrow, if there is one. -/
def returnType (plus : Bool) : Reader (List Token) :=
  onlyIf (starts "->") (inOrder [symbol "->", read.typeTokens plus])

/-- A constant argument: a literal, a name or a block. -/
def constantArgument : Reader (List Token) := do
  let ts ← remaining
  if opens '{' ts then read.blockTokens
  else if startsConstant ts then constant
  else name

/-- A comma or the end of a list in angle brackets comes next. -/
def endsArgument (ts : List Token) : Bool := starts "," ts || starts ">" ts

/-- The meaning of a type as an argument. -/
def typeArgument : Form → PathArgument
  | .path p => .type (if p.qualified then none else some p.lastName)
  | _ => .type none

/-- An argument in angle brackets. -/
def pathArgument : Reader (Entry × PathArgument) := do
  let ts ← remaining
  if startsLifetime ts && !starts "+" (afterOne ts) then return (⟨← lifetime, true⟩, .other)
  else if startsConstant ts || opens '{' ts then return (⟨← constantArgument read, false⟩, .other)
  else
    let type ← read (.type true)
    let associated :=
      match type.form with
      | .path p => p.isAssociated
      | _ => false
    let ts ← remaining
    if associated && starts "=" ts then
      let equals ← symbol "="
      let ts ← remaining
      let value ←
        if startsConstant ts || opens '{' ts then constantArgument read
        else read.typeTokens true
      return (⟨type.tokens ++ equals ++ value, false⟩, .other)
    else if associated && starts ":" ts then
      let colon ← symbol ":"
      let bounds ← boundsUntil read endsArgument
      return (⟨type.tokens ++ colon ++ bounds, false⟩, .other)
    else return (⟨type.tokens, false⟩, typeArgument type.form)

/-- A list in angle brackets, in its standard order, and its entries. -/
def angleList {α : Type} (one : Reader (Entry × α)) : Reader (List Token × List α) := do
  let first ← symbol "<"
  let entries ← parts "," (starts ">") one
  let last ← symbol ">"
  let ordered := Entry.lifetimesFirst (entries.map fun ((entry, _), after) => (entry, after))
  return (first ++ ordered ++ last, entries.map fun ((_, a), _) => a)

/-- Argument types in parentheses and a return type. What the return type is decides whether more
names may follow. -/
def parenthesizedArguments : Reader (List Token × Bool) := do
  let arguments ← enclosed '(' (commaList (read.typeTokens true))
  if starts "->" (← remaining) then
    let arrow ← symbol "->"
    let type ← read (.type false)
    return (arguments ++ arrow ++ type.tokens, type.form == .parenthesized)
  else return (arguments, true)

/-! ## Paths -/

/-- A path, with the tokens of its last arguments apart from the others. -/
structure Path where
  names : List Token
  lastTokens : List Token
  form : PathForm

namespace Path

def tokens (p : Path) : List Token := p.names ++ p.lastTokens

/-- Arguments in parentheses may follow. -/
def takesParentheses (p : Path) : Bool :=
  p.form.arguments == .none || p.form.arguments == .angle []

end Path

/-- A name in a path, with its arguments. -/
structure Segment where
  nameToken : List Token
  argumentTokens : List Token
  arguments : LastArguments

namespace Segment

def name (s : Segment) : List Char := s.nameToken.flatMap Token.source

def tokens (s : Segment) : List Token := s.nameToken ++ s.argumentTokens

end Segment

/-- A name and its arguments in angle brackets, which need a separator in an expression. -/
def segment (inExpression : Bool) : Reader Segment := do
  let ts ← remaining
  if startsAnyWord ["super", "self", "crate", "try"] ts then return ⟨← ident, [], .none⟩
  else
    let nameToken ← if startsWord "Self" ts then ident else name
    let ts ← remaining
    let bare := !inExpression && starts "<" ts && !starts "<=" ts && !starts "<<=" ts
    if bare || (starts "::" ts && starts "<" (ts.drop 2)) then
      let separator ← maybeSymbol "::"
      let (list, arguments) ← angleList (pathArgument read)
      return ⟨nameToken, separator ++ list, .angle arguments⟩
    else return ⟨nameToken, [], .none⟩

/-- The names of a path. Arguments in parentheses after a separator are not part of them. -/
def segmentsWith (inExpression : Bool) : (fuel : Nat) → Reader (List (Segment × List Token))
  | 0 => failure
  | fuel + 1 => do
    let first ← segment read inExpression
    let ts ← remaining
    if starts "::" ts && !opens '(' (ts.drop 2) then
      let separator ← symbol "::"
      let others ← segmentsWith inExpression fuel
      return (first, separator) :: others
    else return [(first, [])]

def segments (inExpression : Bool) : Reader (List (Segment × List Token)) := do
  segmentsWith read inExpression ((← remaining).length + 1)

/-- The path with the given names. -/
def pathOf (qualified : Bool) (start : List Token) (all : List (Segment × List Token)) : Path :=
  let before := all.dropLast.flatMap fun (s, separator) => s.tokens ++ separator
  let last := all.getLast?.map (·.1)
  { names := start ++ before ++ (last.map Segment.nameToken).getD []
    lastTokens := (last.map Segment.argumentTokens).getD []
    form :=
      { qualified
        rooted := !qualified && !start.isEmpty
        names := all.map fun (s, _) => s.name
        plain := all.all fun (s, _) => s.arguments == .none
        arguments := (last.map Segment.arguments).getD .none } }

/-- A path that does not begin with a type. -/
def plainPath (inExpression : Bool) : Reader Path := do
  let root ← maybeSymbol "::"
  return pathOf false root (← segments read inExpression)

/-- A path, which may begin with a type in angle brackets. -/
def path (inExpression : Bool) : Reader Path := do
  if starts "<" (← remaining) then
    let self ← inOrder [symbol "<", read.typeTokens true,
      onlyIf (startsWord "as") (do return (← word "as") ++ (← plainPath read false).tokens),
      symbol ">", symbol "::"]
    return pathOf true self (← segments read inExpression)
  else plainPath read inExpression

/-- Parentheses come next, possibly after a separator. -/
def startsParentheses (ts : List Token) : Bool :=
  opens '(' ts || (starts "::" ts && opens '(' (ts.drop 2))

/-- A path with the arguments in parentheses that follow it. They take the place of empty angle
brackets, and a separator before them is left out. -/
def withParentheses (p : Path) : Reader (Path × Bool) := do
  if p.takesParentheses && startsParentheses (← remaining) then
    let _ ← maybeSymbol "::"
    let (arguments, continues) ← parenthesizedArguments read
    return ({ p with
      lastTokens := arguments
      form := { p.form with arguments := .parenthesized, plain := false } }, continues)
  else return (p, false)

/-- A path with more names after it. -/
def extend (p : Path) : Reader Path := do
  let ts ← remaining
  if starts "::" ts && !opens '(' (ts.drop 2) then
    let separator ← symbol "::"
    let q := pathOf false [] (← segments read false)
    return {
      names := p.tokens ++ separator ++ q.names
      lastTokens := q.lastTokens
      form := { p.form with
        names := p.form.names ++ q.form.names
        plain := false
        arguments := q.form.arguments } }
  else return p

/-- Adds arguments in parentheses to a path as long as there are some. -/
def extendAll (p : Path) : (fuel : Nat) → Reader Path
  | 0 => failure
  | fuel + 1 => do
    let (q, continues) ← withParentheses read p
    if continues then extendAll (← extend read q) fuel else return q

/-- The path of a type. -/
def typePath : Reader Path := do
  let p ← path read false
  extendAll read p ((← remaining).length + 1)

/-! ## Parameters -/

/-- A parameter of what is declared. -/
def parameter : Reader Entry := do
  let attributes ← outerAttributes read
  let ts ← remaining
  if startsLifetime ts then
    let rest ← inOrder [lifetime, colonBounds endsArgument lifetime]
    return ⟨attributes ++ rest, true⟩
  else if startsWord "const" ts then
    let rest ← inOrder [word "const", name, symbol ":", read.typeTokens true,
      onlyIf (starts "=") (inOrder [symbol "=", constantArgument read])]
    return ⟨attributes ++ rest, false⟩
  else
    let rest ← inOrder [if startsWord "_" ts then ident else name,
      colonBounds (fun ts => endsArgument ts || starts "=" ts) read.boundTokens,
      onlyIf (starts "=") (inOrder [symbol "=", read.typeTokens true])]
    return ⟨attributes ++ rest, false⟩

/-- The parameters of what is declared, if there are some. -/
def parameters : Reader (List Token) := do
  if starts "<" (← remaining) then
    let (list, entries) ← angleList (return (← parameter read, ()))
    return if entries.isEmpty then [] else list
  else return []

/-- The lifetimes bound by `for`, in the order in which they are written. -/
def binder : Reader (List Token) :=
  inOrder [word "for", symbol "<",
    separated "," (starts ">") (return (← parameter read).tokens), symbol ">"]

def maybeBinder : Reader (List Token) := onlyIf (startsWord "for") (binder read)

/-- A list of conditions, or of bounds in one, ends here. -/
def endsCondition (ts : List Token) : Bool :=
  ended ts || opens '{' ts || starts "," ts || starts ";" ts || startsColon ts || starts "=" ts

/-- A condition on a lifetime or a type. -/
def condition : Reader (List Token) := do
  let ts ← remaining
  if startsLifetime ts && starts ":" (afterOne ts) then
    inOrder [lifetime, symbol ":", separated "+" endsCondition lifetime]
  else
    inOrder [maybeBinder read, read.typeTokens true, symbol ":", boundsUntil read endsCondition]

/-- The conditions on parameters. Nothing is left of them if there are none. -/
def conditions : Reader (List Token) := do
  if startsWord "where" (← remaining) then
    let first ← word "where"
    let all ← separated "," endsCondition (condition read)
    return if all.isEmpty then [] else first ++ all
  else return []

/-! ## A single bound -/

/-- Lifetimes and names that a type captures. -/
def captures : Reader (List Token) := do
  let first ← word "use"
  let (list, _) ← angleList do
    let isLifetime := startsLifetime (← remaining)
    return (⟨← if isLifetime then lifetime else ident, isLifetime⟩, ())
  return first ++ list

/-- The mark of a constant bound, if there is one. -/
def constantMark : Reader (List Token) := do
  if opens '[' (← remaining) then group else maybeWord "const"

/-- A bound by a trait; and whether it has the mark of a constant one. -/
def traitBound : Reader (List Token × Bool) := do
  let lifetimes ← maybeBinder read
  let mark ← constantMark
  let rest ← inOrder [maybeSymbol "?", maybeBinder read,
    do return (← withParentheses read (← plainPath read false)).1.tokens]
  return (lifetimes ++ mark ++ rest, !mark.isEmpty)

/-- A bound. It is kept as it is written if it has the mark of a constant one. -/
def bound : Reader Phrase := do
  let start ← remaining
  if startsLifetime start then return { tokens := ← lifetime }
  else if startsWord "use" start then return { tokens := ← captures }
  else
    let opening ← onlyIf (opens '(') (takeIf fun t => opens '(' [t])
    let (tokens, marked) ← traitBound read
    let closing ← if opening.isEmpty then pure [] else takeIf fun t => ended [t]
    if marked then return { tokens := ← since start }
    else return { tokens := opening ++ tokens ++ closing }

end MetricBundle.Grammar
