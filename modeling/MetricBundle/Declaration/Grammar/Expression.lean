import MetricBundle.Declaration.Grammar.Pattern
import MetricBundle.Text.Split

/-!
# Expressions

The tokens of an expression do not depend on how strongly its operators bind, so an expression is
read as operands with operators between them. What has to be known of the whole is whether it is a
range and whether it begins with something kept as it is written, since attributes before those are
written back differently.
-/

namespace MetricBundle.Grammar

open Token Reader

variable (read : Readings)

/-! ## Attributes of expressions -/

/-- Attributes with the phrase that they belong to. A range is put into parentheses, and something
kept as it is written has no attributes. -/
def attributed (attributes : List Token) (p : Phrase) : List Token :=
  if attributes.isEmpty then p.tokens
  else
    match p.form with
    | .range _ => attributes ++ .opening '(' :: p.tokens ++ [.closing ')']
    | .written => p.tokens
    | _ => attributes ++ p.tokens

/-- Attributes with the expression whose first operand they belong to. -/
def attributedFirst (attributes : List Token) (p : Phrase) : List Token :=
  match p.form with
  | .range false => attributes ++ p.tokens
  | _ => attributed attributes p

/-! ## Calls and members -/

/-- The indices in a number with a point, which is read where an index is expected. -/
def pointedIndices (source : List Char) : Option (List Token) :=
  (splitOn '.' source).foldlM (fun ts part =>
    if part.isEmpty then return ts
    else
      match Token.read part with
      | some [.literal _ (.integer digits)] =>
        return ts ++ (if ts.isEmpty then [] else [.punct '.' false]) ++ [indexToken digits]
      | _ => none) []

/-- A member after its point: a wait, an index, or a name that may have arguments in angle
brackets. -/
def memberName : Reader (List Token) := do
  let ts ← remaining
  if startsWord "await" ts then word "await"
  else if startsName ts then
    inOrder [name, onlyIf (starts "::")
      (do return (← symbol "::") ++ (← angleList (pathArgument read)).1)]
  else index

/-- A point and a member. A number with a point stands for two indices, or for an index and another
point. -/
def memberAccess : Reader (List Token) := do
  let point ← symbol "."
  match ← remaining with
  | .literal source (.float _) :: ts =>
    let indices ← (pointedIndices source : Option (List Token))
    set ts
    if source.getLast? = some '.' then
      return point ++ indices ++ point ++ (← memberName read)
    else return point ++ indices
  | _ => return point ++ (← memberName read)

/-- Something that belongs to the expression before it comes next. -/
def startsTrailer (ts : List Token) : Bool :=
  opens '(' ts || opens '[' ts || starts "?" ts || (starts "." ts && !starts ".." ts)

/-- Calls, indices, members and questions after an expression. -/
def trailers : Reader (List Token) :=
  many startsTrailer do
    let ts ← remaining
    if opens '(' ts then enclosed '(' (commaList (read.expressionTokens true))
    else if opens '[' ts then enclosed '[' (read.expressionTokens true)
    else if starts "?" ts then symbol "?"
    else memberAccess read

/-! ## Operators -/

/-- The operators that assign as well. -/
def assigningOperators : List String :=
  ["+=", "-=", "*=", "/=", "%=", "^=", "&=", "|=", "<<=", ">>="]

/-- The other operators between two operands. -/
def plainOperators : List String :=
  ["&&", "||", "<<", ">>", "==", "<=", "!=", ">=", "+", "-", "*", "/", "%", "^", "&", "|", "<", ">"]

/-- A range has no end. -/
def endsRange (braces : Bool) (ts : List Token) : Bool :=
  ended ts || starts "," ts || starts ";" ts || (starts "." ts && !starts ".." ts) || starts "?" ts
    || starts "=" ts || (!braces && opens '{' ts) || startsWord "as" ts
    || ["+", "/", "%", "^", ">", "<=", "!=", "-=", "*=", "&=", "|=", "<<="].any fun o => starts o ts

/-- The dots of a range and its end, if it has one. -/
def rangeEnd (braces : Bool) : Reader (List Token) :=
  inOrder [do if starts "..=" (← remaining) then symbol "..=" else symbol "..",
    onlyIf (fun ts => !endsRange braces ts) (return (← read (.operand braces)).tokens)]

/-- Operators with their right operands; and whether they make a range of the whole. That is so if
dots come before anything that assigns. -/
def operationsWith (braces assigned : Bool) : (fuel : Nat) → Reader (List Token × Bool)
  | 0 => failure
  | fuel + 1 => do
    let ts ← remaining
    let right (o : String) (assigned : Bool) : Reader (List Token × Bool) := do
      let first ← inOrder [symbol o, return (← read (.operand braces)).tokens]
      let (others, ranged) ← operationsWith braces assigned fuel
      return (first ++ others, ranged)
    match assigningOperators.find? fun o => starts o ts with
    | some o => right o true
    | none =>
      match plainOperators.find? fun o => starts o ts with
      | some o => right o assigned
      | none =>
        if starts "=" ts && !starts "=>" ts then right "=" true
        else if starts ".." ts then
          let first ← rangeEnd read braces
          let (others, _) ← operationsWith braces assigned fuel
          return (first ++ others, !assigned)
        else if startsWord "as" ts then
          let first ← inOrder [word "as", read.typeTokens false]
          let (others, ranged) ← operationsWith braces assigned fuel
          return (first ++ others, ranged)
        else return ([], false)

/-- The operators after an operand, and the whole expression. -/
def withOperations (braces : Bool) (first : Phrase) : Reader Phrase := do
  let (others, ranged) ← operationsWith read braces false ((← remaining).length + 1)
  let form :=
    match first.form with
    | .range _ => .range true
    | .written => if ranged then .range false else .written
    | _ => if ranged then .range false else .other
  return { tokens := first.tokens ++ others, form }

def expression (braces : Bool) : Reader Phrase := do
  withOperations read braces (← read (.operand braces))

/-! ## Expressions with blocks -/

/-- A binder that belongs to a closure comes next. -/
def startsClosureBinder (ts : List Token) : Bool :=
  startsWord "for" ts && starts "<" (ts.drop 1)
    && (startsLifetime (ts.drop 2) || starts ">" (ts.drop 2))

/-- An expression that ends a statement with its block comes next. -/
def startsBlockLike (ts : List Token) : Bool :=
  startsAnyWord ["if", "while", "loop", "match", "unsafe"] ts || opens '{' ts || startsLifetime ts
    || (startsWord "for" ts && !startsClosureBinder ts)
    || (startsAnyWord ["try", "const"] ts && opens '{' (ts.drop 1))

/-- A condition and its block. -/
def conditionedBlock : Reader (List Token) :=
  inOrder [word "if", read.expressionTokens false, read.blockTokens]

def conditional : Reader (List Token) :=
  inOrder [conditionedBlock read,
    many (fun ts => startsWord "else" ts && startsWord "if" (ts.drop 1))
      (inOrder [word "else", conditionedBlock read]),
    onlyIf (startsWord "else") (inOrder [word "else", read.blockTokens])]

/-- A case of a match, with its attributes, its condition and the expression it stands for. -/
def matchArm : Reader (List Token) := do
  let attributes ← outerAttributes read
  let case ← inOrder [alternatives read,
    onlyIf (startsWord "if") (inOrder [word "if", read.expressionTokens true]), symbol "=>"]
  let body := attributedFirst (← outerAttributes read) (← read .body)
  return attributes ++ case ++ body ++ (← maybeSymbol ",")

/-- An expression that begins with a keyword and ends with a block, or is one. -/
def blockLike : Reader (List Token) := do
  let label ← onlyIf startsLifetime (inOrder [lifetime, symbol ":"])
  let ts ← remaining
  let rest ←
    if startsWord "if" ts then conditional read
    else if startsWord "while" ts then
      inOrder [word "while", read.expressionTokens false, read.blockTokens]
    else if startsWord "for" ts then
      inOrder [word "for", alternatives read, word "in", read.expressionTokens false,
        read.blockTokens]
    else if startsWord "match" ts then
      inOrder [word "match", read.expressionTokens false,
        enclosed '{' (inOrder [innerAttributes read, many (fun ts => !ended ts) (matchArm read)])]
    else if startsAnyWord ["loop", "unsafe", "try", "const"] ts then
      inOrder [ident, read.blockTokens]
    else read.blockTokens
  return label ++ rest

/-- An expression that, if it begins with a block, goes on after it only with a member. -/
def body : Reader Phrase := do
  if startsBlockLike (← remaining) then
    let first ← blockLike read
    let ts ← remaining
    if starts "?" ts || (starts "." ts && !starts ".." ts) then
      let tokens := first ++ (← trailers read)
      withOperations read true { tokens }
    else return { tokens := first }
  else expression read true

/-! ## Operands -/

/-- A parameter of a closure. -/
def closureParameter : Reader (List Token) := do
  let attributes ← outerAttributes read
  let pattern ← read .pattern
  if startsColon (← remaining) then
    return attributes ++ pattern.tokens ++ (← inOrder [symbol ":", read.typeTokens true])
  else return attributed attributes pattern

/-- A closure comes next. -/
def startsClosure (ts : List Token) : Bool :=
  starts "|" ts || startsAnyWord ["move", "static"] ts || startsClosureBinder ts
    || (startsWord "const" ts && !opens '{' (ts.drop 1))
    || (startsWord "async" ts && (starts "|" (ts.drop 1) || startsWord "move" (ts.drop 1)))

def closure (braces : Bool) : Reader (List Token) :=
  inOrder [maybeBinder read, maybeWord "const", maybeWord "static", maybeWord "async",
    maybeWord "move", symbol "|", separated "," (starts "|") (closureParameter read), symbol "|",
    do
      if starts "->" (← remaining) then
        inOrder [symbol "->", read.typeTokens true, read.blockTokens]
      else read.expressionTokens braces]

/-- An expression can begin here. -/
def startsExpression (ts : List Token) : Bool :=
  (startsIdent ts && !startsWord "as" ts) || opensAny ts || startsConstant ts
    || (starts "!" ts && !starts "!=" ts)
    || (starts "-" ts && !starts "-=" ts && !starts "->" ts)
    || (starts "*" ts && !starts "*=" ts) || (starts "|" ts && !starts "|=" ts)
    || (starts "&" ts && !starts "&=" ts) || starts ".." ts
    || (starts "<" ts && !starts "<=" ts && !starts "<<=" ts)
    || starts "::" ts || startsLifetime ts || starts "#" ts

/-- An entry between the braces of a value: a member, or what the other members are taken from. -/
def braceEntry : Reader (List Token) := do
  if starts ".." (← remaining) then
    inOrder [symbol "..", onlyIf (fun ts => !ended ts) (read.expressionTokens true)]
  else
    inOrder [outerAttributes read, member,
      onlyIf (starts ":") (inOrder [symbol ":", read.expressionTokens true])]

/-- A path as an expression, the use of a macro, or a value with its members in braces. -/
def named (braces : Bool) : Reader (List Token) := do
  let p ← path read true
  let ts ← remaining
  if p.form.isSimple && starts "!" ts && !starts "!=" ts then
    return p.tokens ++ (← inOrder [symbol "!", group])
  else if braces && opens '{' ts then
    return p.tokens ++ (← enclosed '{' (commaList (braceEntry read)))
  else return p.tokens

/-- An expression that leaves a loop or a function, with the value it takes along. -/
def jump (braces : Bool) : Reader (List Token) := do
  let ts ← remaining
  if startsWord "break" ts then
    inOrder [word "break", onlyIf startsLifetime lifetime,
      onlyIf (fun ts => startsExpression ts && (braces || !opens '{' ts))
        (read.expressionTokens true)]
  else if startsWord "continue" ts then
    inOrder [word "continue", onlyIf startsLifetime lifetime]
  else inOrder [ident, onlyIf startsExpression (read.expressionTokens true)]

/-- An operand that is written without operators and without anything after it. -/
def atom (braces : Bool) : Reader Phrase := do
  let ts ← remaining
  if startsConstant ts then return { tokens := ← constant }
  else if startsWord "async" ts
      && (opens '{' (ts.drop 1) || startsWord "move" (ts.drop 1) && opens '{' (ts.drop 2)) then
    return { tokens := ← inOrder [word "async", maybeWord "move", read.blockTokens] }
  else if startsClosure ts then return { tokens := ← closure read braces }
  else if startsBuiltin ts then builtin
  else if startsPath ts || (startsWord "try" ts && !opens '{' (ts.drop 1)) then
    return { tokens := ← named read braces }
  else if opens '(' ts then
    return { tokens := ← enclosed '(' (commaList (read.expressionTokens true)) }
  else if opens '[' ts then
    return { tokens := ← enclosed '[' (inOrder [commaList (read.expressionTokens true),
      onlyIf (starts ";") (inOrder [symbol ";", read.expressionTokens true])]) }
  else if startsAnyWord ["break", "continue", "return", "yield"] ts then
    return { tokens := ← jump read braces }
  else if startsWord "become" ts then
    return {
      tokens := ← asWritten (inOrder [word "become", read.expressionTokens true])
      form := .written }
  else if startsBlockLike ts then return { tokens := ← blockLike read }
  else if starts ".." ts then return { tokens := ← rangeEnd read braces, form := .range true }
  else return { tokens := ← word "_" }

/-- What makes an operand of the operand after it, if something does. -/
def leader : Reader (List Token) := do
  let ts ← remaining
  if starts "&" ts then
    inOrder [symbol "&", do
      let ts ← remaining
      if startsWord "raw" ts && startsAnyWord ["const", "mut"] (ts.drop 1) then
        inOrder [ident, ident]
      else maybeWord "mut"]
  else if starts "*" ts then symbol "*"
  else if starts "!" ts then symbol "!"
  else if starts "-" ts then symbol "-"
  else if startsWord "let" ts then inOrder [word "let", alternatives read, symbol "="]
  else return []

/-- An expression without operators between two operands. -/
def operand (braces : Bool) : Reader Phrase := do
  let start ← remaining
  let attributes ← outerAttributes read
  let first ← leader read
  if first.isEmpty then
    let p ← atom read braces
    let after ← trailers read
    if !after.isEmpty then return { tokens := attributes ++ p.tokens ++ after }
    else if p.form = .written then return { p with tokens := ← since start }
    else return { p with tokens := attributes ++ p.tokens }
  else return { tokens := attributes ++ first ++ (← read (.operand braces)).tokens }

end MetricBundle.Grammar
