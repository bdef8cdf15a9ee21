import MetricBundle.Declaration.Token

/-!
# Reading lists of tokens

A reader takes tokens from the front of a list, or fails. Most readers give back tokens: those that
the phrase they read is written with, which need not be those that were taken. A phrase is mostly a
sequence of parts, and its tokens are those of its parts (`inOrder`).

What follows is looked at by predicates on the remaining tokens, before anything is taken.
-/

namespace MetricBundle

namespace Token

/-! ## Looking at the front -/

/-- Joined punctuation is at the front of a list of tokens; the last of it may be joined to more. -/
def startsJoined : List Char → List Token → Bool
  | [], _ => true
  | [c], .punct d _ :: _ => c == d
  | c :: cs, .punct d joined :: ts => c == d && joined && startsJoined cs ts
  | _, _ => false

/-- An operator is at the front of a list of tokens, or what is joined there begins with it. -/
def starts (operator : String) (ts : List Token) : Bool := startsJoined operator.toList ts

def isWord (word : String) : Token → Bool
  | .ident name => name == word.toList
  | _ => false

/-- A keyword is at the front of a list of tokens. -/
def startsWord (word : String) (ts : List Token) : Bool := ts.head?.any (isWord word)

/-- One of the keywords is at the front of a list of tokens. -/
def startsAnyWord (words : List String) (ts : List Token) : Bool :=
  words.any fun word => startsWord word ts

/-- The words that are not names. -/
def reserved : List (List Char) :=
  ["_", "abstract", "as", "async", "await", "become", "box", "break", "const", "continue", "crate",
    "do", "dyn", "else", "enum", "extern", "false", "final", "fn", "for", "if", "impl", "in", "let",
    "loop", "macro", "match", "mod", "move", "mut", "override", "priv", "pub", "ref", "return",
    "Self", "self", "static", "struct", "super", "trait", "true", "try", "type", "typeof", "unsafe",
    "unsized", "use", "virtual", "where", "while", "yield"].map String.toList

def isName : Token → Bool
  | .ident name => !reserved.contains name
  | _ => false

/-- A name is at the front of a list of tokens. -/
def startsName (ts : List Token) : Bool := ts.head?.any isName

/-- A name or keyword is at the front of a list of tokens. -/
def startsIdent : List Token → Bool
  | .ident _ :: _ => true
  | _ => false

def startsLifetime : List Token → Bool
  | .punct '\'' _ :: .ident _ :: _ => true
  | _ => false

/-- A literal or a truth value is at the front of a list of tokens. -/
def startsConstant (ts : List Token) : Bool :=
  startsWithLiteral ts || startsAnyWord ["true", "false"] ts

def startsString : List Token → Bool
  | .literal _ (.text _) :: _ => true
  | _ => false

/-- A delimiter of the given kind opens at the front of a list of tokens. -/
def opens (c : Char) : List Token → Bool
  | .opening d :: _ => c == d
  | _ => false

/-- A delimiter opens at the front of a list of tokens. -/
def opensAny : List Token → Bool
  | .opening _ :: _ => true
  | _ => false

/-- Nothing more stands before the closing delimiter, or there is nothing at all. -/
def ended : List Token → Bool
  | [] => true
  | .closing _ :: _ => true
  | _ => false

/-- A colon that does not separate the names of a path is at the front of a list of tokens. -/
def startsColon (ts : List Token) : Bool := starts ":" ts && !starts "::" ts

/-- What follows the first token; a lifetime counts as one. -/
def afterOne (ts : List Token) : List Token := ts.drop (if startsLifetime ts then 2 else 1)

/-- What follows the first token, if that is the given keyword. -/
def dropWord (word : String) (ts : List Token) : List Token :=
  if startsWord word ts then ts.drop 1 else ts

end Token

/-- A way to take something from the front of a list of tokens. -/
abbrev Reader (α : Type) := StateT (List Token) Option α

namespace Reader

/-! ## Tokens -/

/-- The tokens that remain. -/
def remaining : Reader (List Token) := get

/-- The next token, if it is as required. -/
def takeIf (accept : Token → Bool) : Reader (List Token) := do
  match ← get with
  | t :: ts => if accept t then set ts; return [t] else failure
  | [] => failure

/-- The next tokens, as many as there are characters in an operator, if they are that operator. -/
def symbol (operator : String) : Reader (List Token) := do
  let ts ← get
  if Token.starts operator ts then
    set (ts.drop operator.length)
    return ts.take operator.length
  else failure

def word (w : String) : Reader (List Token) := takeIf (Token.isWord w)

def name : Reader (List Token) := takeIf Token.isName

/-- A name or keyword. -/
def ident : Reader (List Token) := takeIf fun t => Token.startsIdent [t]

def lifetime : Reader (List Token) := do
  match ← get with
  | .punct '\'' joined :: .ident name :: ts =>
    set ts
    return [.punct '\'' joined, .ident name]
  | _ => failure

/-- A literal or a truth value. A minus sign may stand before a number. -/
def constant : Reader (List Token) := do
  let ts ← get
  if Token.startsConstant ts then
    let length := if Token.starts "-" ts then 2 else 1
    set (ts.drop length)
    return ts.take length
  else failure

/-! ## Parts -/

/-- Readers one after the other, and the tokens of all of them. -/
def inOrder : List (Reader (List Token)) → Reader (List Token)
  | [] => return []
  | r :: rs => do
    let first ← r
    let others ← inOrder rs
    return first ++ others

/-- A part that is only there if the remaining tokens are as required. -/
def onlyIf (present : List Token → Bool) (r : Reader (List Token)) : Reader (List Token) := do
  if present (← get) then r else return []

def maybeSymbol (operator : String) : Reader (List Token) :=
  onlyIf (Token.starts operator) (symbol operator)

def maybeWord (w : String) : Reader (List Token) := onlyIf (Token.startsWord w) (word w)

/-- A part in delimiters. -/
def enclosed (opening : Char) (r : Reader (List Token)) : Reader (List Token) := do
  let first ← takeIf fun t => Token.opens opening [t]
  let inside ← r
  let last ← takeIf fun t => Token.ended [t]
  return first ++ inside ++ last

/-- What is read as long as there is more; the fuel bounds how often. -/
def collectWith {α : Type} (more : List Token → Bool) (r : Reader α) :
    (fuel : Nat) → Reader (List α)
  | 0 => failure
  | fuel + 1 => do
    if more (← get) then
      let first ← r
      let others ← collectWith more r fuel
      return first :: others
    else return []

/-- What is read as long as there is more. -/
def collect {α : Type} (more : List Token → Bool) (r : Reader α) : Reader (List α) := do
  collectWith more r ((← get).length + 1)

/-- Reads a part as long as there is more. -/
def many (more : List Token → Bool) (r : Reader (List Token)) : Reader (List Token) :=
  return (← collect more r).flatten

/-- Parts with separators between them, each with the separator after it; the fuel bounds their
number. There may be a separator after the last one. -/
def partsWith {α : Type} (separator : String) (stop : List Token → Bool) (r : Reader α) :
    (fuel : Nat) → Reader (List (α × List Token))
  | 0 => failure
  | fuel + 1 => do
    if stop (← get) then return []
    else
      let first ← r
      if Token.starts separator (← get) then
        let after ← symbol separator
        let others ← partsWith separator stop r fuel
        return (first, after) :: others
      else return [(first, [])]

/-- The parts of a list up to its end, each with the separator after it. -/
def parts {α : Type} (separator : String) (stop : List Token → Bool) (r : Reader α) :
    Reader (List (α × List Token)) := do
  partsWith separator stop r ((← get).length + 1)

/-- The tokens of a list up to its end. -/
def separated (separator : String) (stop : List Token → Bool) (r : Reader (List Token)) :
    Reader (List Token) := do
  let all ← parts separator stop r
  return all.flatMap fun (part, after) => part ++ after

/-- The tokens of a list with commas up to the closing delimiter. -/
def commaList (r : Reader (List Token)) : Reader (List Token) := separated "," Token.ended r

/-! ## Keeping what is written -/

/-- The tokens that have been taken from a list since. -/
def since (start : List Token) : Reader (List Token) := do
  let rest ← get
  return start.take (start.length - rest.length)

/-- Reads something and keeps its tokens as they are written. -/
def asWritten {α : Type} (r : Reader α) : Reader (List Token) := do
  let start ← get
  let _ ← r
  since start

/-- The length of what stands before the delimiter that closes `depth` open ones, with it. -/
def closingLength : (depth : Nat) → List Token → Option Nat
  | _, [] => none
  | depth, .opening _ :: ts => (closingLength (depth + 1) ts).map (· + 1)
  | depth, .closing _ :: ts =>
    if depth ≤ 1 then some 1 else (closingLength (depth - 1) ts).map (· + 1)
  | depth, _ :: ts => (closingLength depth ts).map (· + 1)

/-- Delimiters with everything between them. -/
def group : Reader (List Token) := do
  match ← get with
  | .opening c :: ts =>
    let length ← (closingLength 1 ts : Option Nat)
    set (ts.drop length)
    return .opening c :: ts.take length
  | _ => failure

/-- A token that is no delimiter, or delimiters with everything between them. -/
def tree : Reader (List Token) := do
  let ts ← get
  if Token.opensAny ts then group else takeIf fun t => !Token.ended [t]

end Reader

end MetricBundle
