import MetricBundle.Declaration.Grammar.Type
import MetricBundle.Declaration.Lexer

/-!
# Patterns
-/

namespace MetricBundle.Grammar

open Token Reader

variable (read : Readings)

/-! ## Members -/

/-- An index, as decimal digits. -/
def indexToken (digits : List Char) : Token := .literal digits (.integer digits)

/-- The index that a literal denotes. -/
def index : Reader (List Token) := do
  match ← remaining with
  | .literal _ (.integer digits) :: ts =>
    set ts
    return [indexToken digits]
  | _ => failure

/-- The name or the index of a member. -/
def member : Reader (List Token) := do
  if startsName (← remaining) then name else index

/-! ## Patterns -/

/-- Alternatives with bars between them. -/
def alternatives : Reader (List Token) :=
  inOrder [maybeSymbol "|", read.patternTokens,
    many (fun ts => starts "|" ts && !starts "||" ts && !starts "|=" ts)
      (inOrder [symbol "|", read.patternTokens])]

/-- The dots of a range. Three dots are written with an equals sign for the last one. -/
def rangeDots : Reader (List Token) := do
  let ts ← remaining
  if starts "..=" ts then symbol "..="
  else if starts "..." ts then
    let dots ← symbol "..."
    return dots.take 2 ++ [.punct '=' false]
  else symbol ".."

/-- The range of a pattern has no end. -/
def endsPattern (ts : List Token) : Bool :=
  ended ts || starts "|" ts || starts "=" ts || startsColon ts || starts "," ts || starts ";" ts
    || startsWord "if" ts

/-- A constant in a pattern. -/
def patternConstant : Reader (List Token) := do
  let ts ← remaining
  if startsConstant ts then constant
  else if startsWord "const" ts then inOrder [word "const", read.blockTokens]
  else return (← path read true).tokens

/-- The rest of a range after its beginning. -/
def rangeRest : Reader (List Token) :=
  inOrder [rangeDots, onlyIf (fun ts => !endsPattern ts) (patternConstant read)]

/-- What a constant begins: itself, or a range. -/
def constantPattern (first : List Token) : Reader Phrase := do
  if starts ".." (← remaining) then
    return { tokens := first ++ (← rangeRest read), form := .range false }
  else return { tokens := first }

/-- A member of a pattern with its pattern, or only its name. A boxed one is kept as it is
written. -/
def memberPattern : Reader (List Token) := do
  let ts ← remaining
  if startsAnyWord ["box", "ref", "mut"] ts then
    inOrder [maybeWord "box", maybeWord "ref", maybeWord "mut", name]
  else
    let first ← member
    if startsColon (← remaining) then
      inOrder [return first, symbol ":", alternatives read]
    else return first

/-- An entry between the braces of a pattern. -/
def bracePatternEntry : Reader (List Token) :=
  inOrder [outerAttributes read,
    do if starts ".." (← remaining) then symbol ".." else memberPattern read]

/-- A pattern that begins with a path. -/
def pathPattern : Reader Phrase := do
  let p ← path read true
  let ts ← remaining
  if p.form.isSimple && starts "!" ts && !starts "!=" ts then
    return { tokens := p.tokens ++ (← inOrder [symbol "!", group]) }
  else if opens '{' ts then
    return { tokens := p.tokens ++ (← enclosed '{' (commaList (bracePatternEntry read))) }
  else if opens '(' ts then
    return { tokens := p.tokens ++ (← enclosed '(' (commaList (alternatives read))) }
  else constantPattern read p.tokens

/-- A pattern that names what it matches. -/
def namingPattern : Reader (List Token) :=
  inOrder [maybeWord "ref", maybeWord "mut",
    do if startsWord "self" (← remaining) then word "self" else name,
    onlyIf (starts "@") (inOrder [symbol "@", read.patternTokens])]

/-- A name is not all of a pattern. -/
def startsLongerPath (ts : List Token) : Bool :=
  let after := ts.drop 1
  startsName ts && (starts "::" after || starts "!" after || starts ".." after
      || opens '{' after || opens '(' after)
    || startsWord "self" ts && starts "::" after
    || starts "::" ts || starts "<" ts || startsAnyWord ["Self", "super", "crate"] ts

/-- A pattern that is no list of alternatives. -/
def pattern : Reader Phrase := do
  let ts ← remaining
  if startsLongerPath ts then pathPattern read
  else if startsWord "_" ts then return { tokens := ← word "_" }
  else if startsWord "box" ts then
    return { tokens := ← asWritten (inOrder [word "box", read.patternTokens]), form := .written }
  else if startsConstant ts || startsWord "const" ts then
    constantPattern read (← patternConstant read)
  else if startsAnyWord ["ref", "mut", "self"] ts || startsName ts then
    return { tokens := ← namingPattern read }
  else if starts "&" ts then
    return { tokens := ← inOrder [symbol "&", maybeWord "mut", read.patternTokens] }
  else if opens '(' ts then
    return { tokens := ← enclosed '(' (commaList (alternatives read)) }
  else if opens '[' ts then
    return { tokens := ← enclosed '[' (commaList (alternatives read)) }
  else if starts ".." ts then
    let dots ← rangeDots
    if endsPattern (← remaining) then return { tokens := dots }
    else return { tokens := dots ++ (← patternConstant read), form := .range true }
  else failure

end MetricBundle.Grammar
