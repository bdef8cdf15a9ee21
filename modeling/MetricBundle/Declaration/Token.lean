/-!
# Tokens of a declaration

A bundle is declared as a struct in source text, which is a list of tokens. Delimiters are tokens of
their own, so a list is flat. Punctuation comes one character at a time: an operator of several
characters is joined punctuation, and a lifetime is a quote followed by its name. Of a literal only
what an attribute can use is kept beside its source.
-/

namespace MetricBundle

/-- What a literal says. -/
inductive Literal where
  /-- A string, with its escapes resolved. -/
  | text (value : List Char)
  /-- A whole number, as decimal digits. -/
  | integer (digits : List Char)
  /-- A number with a point or an exponent, as it is written but for underscores and the like. -/
  | float (digits : List Char)
  /-- A literal of another type. -/
  | other
deriving DecidableEq

inductive Token where
  /-- An identifier or keyword; a raw identifier keeps its mark. -/
  | ident (name : List Char)
  /-- A punctuation character, which is joined if another one follows it at once. -/
  | punct (c : Char) (joined : Bool)
  | literal (source : List Char) (value : Literal)
  | opening (c : Char)
  | closing (c : Char)
deriving DecidableEq

namespace Token

/-- The source of a token. -/
def source : Token → List Char
  | .ident name => name
  | .punct c _ => [c]
  | .literal source _ => source
  | .opening c => [c]
  | .closing c => [c]

def isPunct (c : Char) : Token → Bool
  | .punct d _ => c == d
  | _ => false

/-- A literal is at the front of a list of tokens; a minus sign may stand before a number. -/
def startsWithLiteral : List Token → Bool
  | .literal _ _ :: _ => true
  | .punct '-' _ :: .literal _ (.integer _) :: _ => true
  | .punct '-' _ :: .literal _ (.float _) :: _ => true
  | _ => false

/-- The source of a list of tokens without any space. -/
def denseSource (ts : List Token) : String :=
  String.ofList ((ts.flatMap source).filter (· != ' '))

/-- The delimiter that closes what another one opens. -/
def closerOf (c : Char) : Char :=
  if c = '(' then ')'
  else if c = '[' then ']'
  else '\x7d'

/-- Delimiters are closed in reverse order by those that belong to them; first those that are
awaited, the one to come next in front. -/
def matched (awaited : List Char) : List Token → Bool
  | [] => awaited.isEmpty
  | .opening c :: ts => matched (closerOf c :: awaited) ts
  | .closing c :: ts =>
    match awaited with
    | d :: awaited => c == d && matched awaited ts
    | [] => false
  | _ :: ts => matched awaited ts

/-- The parts of a list of tokens between its commas. What stands between delimiters is one part;
`depth` counts the delimiters that are open. -/
def splitCommas (depth : Nat) : List Token → List (List Token)
  | [] => [[]]
  | t :: ts =>
    if depth = 0 ∧ t.isPunct ',' then [] :: splitCommas 0 ts
    else
      let depth :=
        match t with
        | .opening _ => depth + 1
        | .closing _ => depth - 1
        | _ => depth
      match splitCommas depth ts with
      | [] => [[t]]
      | part :: parts => (t :: part) :: parts

end Token

/-- The mark of a raw identifier. -/
def rawMark : List Char := ['r', '#']

/-- An identifier without the mark of a raw one. -/
def plainIdent (name : List Char) : List Char :=
  if rawMark.isPrefixOf name then name.drop rawMark.length else name

end MetricBundle
