/-!
# JSON text

A reader of JSON. Strings may be written with lone surrogates, which denote no text; such a string
is read as `none`, so that a reader of the value can still refuse it. Numbers are kept as they are
written.

Each reader takes a text and gives what it read with the rest of the text.
-/

namespace MetricBundle

/-- A JSON value. -/
inductive Json where
  | null
  | bool (b : Bool)
  | number (written : List Char)
  | text (s : Option String)
  | array (items : List Json)
  | object (members : List (Option String × Json))

namespace Json

/-- White space of JSON. -/
def isSpace (c : Char) : Bool := c == ' ' || c == '\t' || c == '\n' || c == '\r'

def skipSpace (cs : List Char) : List Char := cs.dropWhile isSpace

def hexDigit? (c : Char) : Option Nat :=
  let n := c.toNat
  if 0x30 ≤ n ∧ n ≤ 0x39 then some (n - 0x30)
  else if 0x41 ≤ n ∧ n ≤ 0x46 then some (n - 0x41 + 10)
  else if 0x61 ≤ n ∧ n ≤ 0x66 then some (n - 0x61 + 10)
  else none

/-- The 16-bit unit written by four hexadecimal digits. -/
def unit? (a b c d : Char) : Option Nat :=
  match hexDigit? a, hexDigit? b, hexDigit? c, hexDigit? d with
  | some a, some b, some c, some d => some (((a * 16 + b) * 16 + c) * 16 + d)
  | _, _, _, _ => none

/-- A part of a string as it is written: a character, or a 16-bit unit given by its code. -/
inductive Piece where
  | char (c : Char)
  | unit (u : Nat)

def escape? : Char → Option Char
  | '"' => some '"'
  | '\\' => some '\\'
  | '/' => some '/'
  | 'b' => some (Char.ofNat 8)
  | 'f' => some (Char.ofNat 12)
  | 'n' => some '\n'
  | 'r' => some '\r'
  | 't' => some '\t'
  | _ => none

/-- The pieces of a string after its opening quote, and the text after its closing quote. -/
def readPieces : List Char → Option (List Piece × List Char)
  | [] => none
  | '"' :: rest => some ([], rest)
  | '\\' :: 'u' :: a :: b :: c :: d :: rest =>
    match unit? a b c d with
    | none => none
    | some u => (readPieces rest).map fun (pieces, rest) => (.unit u :: pieces, rest)
  | '\\' :: c :: rest =>
    match escape? c with
    | none => none
    | some e => (readPieces rest).map fun (pieces, rest) => (.char e :: pieces, rest)
  | c :: rest =>
    if c = '\\' ∨ c.toNat < 0x20 then none
    else (readPieces rest).map fun (pieces, rest) => (.char c :: pieces, rest)

/-- The text of the pieces. A surrogate has to stand in a pair. -/
def assemble : List Piece → Option (List Char)
  | [] => some []
  | .char c :: ps => (assemble ps).map (c :: ·)
  | .unit u :: ps =>
    if u < 0xD800 ∨ 0xDFFF < u then (assemble ps).map (Char.ofNat u :: ·)
    else
      match ps with
      | .unit v :: ps =>
        if u ≤ 0xDBFF ∧ 0xDC00 ≤ v ∧ v ≤ 0xDFFF then
          (assemble ps).map (Char.ofNat (0x10000 + (u - 0xD800) * 0x400 + (v - 0xDC00)) :: ·)
        else none
      | _ => none

/-- The digits at the front of a text, at least one, and the rest. -/
def readDigits (cs : List Char) : Option (List Char × List Char) :=
  match cs.span Char.isDigit with
  | ([], _) => none
  | (digits, rest) => some (digits, rest)

/-- The whole part of a number: zero, or digits that do not begin with zero. -/
def readWhole : List Char → Option (List Char × List Char)
  | '0' :: rest => if rest.head?.any Char.isDigit then none else some (['0'], rest)
  | cs => readDigits cs

def readFraction : List Char → Option (List Char × List Char)
  | '.' :: rest => (readDigits rest).map fun (digits, rest) => ('.' :: digits, rest)
  | cs => some ([], cs)

def readPower : List Char → Option (List Char × List Char)
  | c :: rest =>
    if c = 'e' ∨ c = 'E' then
      match rest with
      | '+' :: rest => (readDigits rest).map fun (digits, rest) => (c :: '+' :: digits, rest)
      | '-' :: rest => (readDigits rest).map fun (digits, rest) => (c :: '-' :: digits, rest)
      | rest => (readDigits rest).map fun (digits, rest) => (c :: digits, rest)
    else some ([], c :: rest)
  | [] => some ([], [])

/-- A number without its sign, and the rest. -/
def readMagnitude (cs : List Char) : Option (List Char × List Char) := do
  let (whole, rest) ← readWhole cs
  let (fraction, rest) ← readFraction rest
  let (power, rest) ← readPower rest
  return (whole ++ fraction ++ power, rest)

/-- Reads a string after its opening quote. -/
def readText (cs : List Char) : Option (Option String × List Char) :=
  (readPieces cs).map fun (pieces, rest) => ((assemble pieces).map String.ofList, rest)

/-- Reads a word at the front of a text. -/
def readWord (word : List Char) (v : Json) (cs : List Char) : Option (Json × List Char) :=
  if word.isPrefixOf cs then some (v, cs.drop word.length) else none

/-- Reads a value that holds no other values. -/
def readScalar : List Char → Option (Json × List Char)
  | '"' :: rest => (readText rest).map fun (s, rest) => (.text s, rest)
  | '-' :: rest => (readMagnitude rest).map fun (digits, rest) => (.number ('-' :: digits), rest)
  | 'n' :: rest => readWord "ull".toList .null rest
  | 't' :: rest => readWord "rue".toList (.bool true) rest
  | 'f' :: rest => readWord "alse".toList (.bool false) rest
  | cs => (readMagnitude cs).map fun (digits, rest) => (.number digits, rest)

/-- Reads a member's key and the colon after it. -/
def readKey (cs : List Char) : Option (Option String × List Char) :=
  match cs with
  | '"' :: rest =>
    match readText rest with
    | some (key, rest) =>
      match skipSpace rest with
      | ':' :: rest => some (key, rest)
      | _ => none
    | none => none
  | _ => none

mutual

/-- Reads a value, and gives the text after it. The fuel bounds the depth of the reading. -/
def readValue : (fuel : Nat) → List Char → Option (Json × List Char)
  | 0, _ => none
  | fuel + 1, cs =>
    match skipSpace cs with
    | '[' :: rest =>
      match skipSpace rest with
      | ']' :: rest => some (.array [], rest)
      | rest => (readItems fuel rest).map fun (items, rest) => (.array items, rest)
    | '{' :: rest =>
      match skipSpace rest with
      | '}' :: rest => some (.object [], rest)
      | rest => (readMembers fuel rest).map fun (members, rest) => (.object members, rest)
    | cs => readScalar cs

/-- Reads the items of an array, at least one, and its end. -/
def readItems : (fuel : Nat) → List Char → Option (List Json × List Char)
  | 0, _ => none
  | fuel + 1, cs =>
    match readValue fuel cs with
    | none => none
    | some (v, rest) =>
      match skipSpace rest with
      | ']' :: rest => some ([v], rest)
      | ',' :: rest => (readItems fuel rest).map fun (items, rest) => (v :: items, rest)
      | _ => none

/-- Reads the members of an object, at least one, and its end. -/
def readMembers : (fuel : Nat) → List Char → Option (List (Option String × Json) × List Char)
  | 0, _ => none
  | fuel + 1, cs =>
    match readKey (skipSpace cs) with
    | none => none
    | some (key, rest) =>
      match readValue fuel rest with
      | none => none
      | some (v, rest) =>
        match skipSpace rest with
        | '}' :: rest => some ([(key, v)], rest)
        | ',' :: rest =>
          (readMembers fuel rest).map fun (members, rest) => ((key, v) :: members, rest)
        | _ => none

end

/-- The value that a text denotes. An array or object is entered in two steps and takes at least one
character, so the fuel does not run out. -/
def read (cs : List Char) : Option Json :=
  match readValue (2 * cs.length + 2) cs with
  | some (v, rest) => if (skipSpace rest).isEmpty then some v else none
  | none => none

end Json

end MetricBundle
