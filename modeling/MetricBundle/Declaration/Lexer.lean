import MetricBundle.Declaration.Token
import MetricBundle.Number.Reader
import MetricBundle.Text.Blank
import MetricBundle.Text.Quoted

/-!
# Reading tokens

`Token.read` turns source text into tokens. Each reader below takes the text after what is already
recognised and gives what it read with the rest of the text, or nothing if the text is no token.
Beyond ASCII every character that is not white space counts as part of an identifier.

Comments are passed over like white space, but for comments that document what follows or encloses
them: such a comment stands for an attribute with its text.
-/

namespace MetricBundle.Token

/-- White space between tokens, which the two marks of writing direction belong to. -/
def isSpace (c : Char) : Bool := isBlank c || c.toNat == 0x200E || c.toNat == 0x200F

def isIdentStart (c : Char) : Bool :=
  c.isAlpha || c == '_' || (0x80 ≤ c.toNat && !isSpace c)

def isIdentPart (c : Char) : Bool := isIdentStart c || isDigit c

/-- The characters of punctuation. -/
def isPunctuation (c : Char) : Bool := "~!@#$%^&*-=+|;:,<.>/?'".toList.contains c

/-- A text begins with punctuation, which a comment does not. -/
def startsPunctuation : List Char → Bool
  | '/' :: '/' :: _ => false
  | '/' :: '*' :: _ => false
  | c :: _ => isPunctuation c
  | [] => false

def hexValue? (c : Char) : Option Nat :=
  match digit? c with
  | some d => some d
  | none =>
    let n := c.toLower.toNat
    if 0x61 ≤ n ∧ n ≤ 0x66 then some (n - 0x61 + 10) else none

/-- The text after the suffix of a literal, if it has one. -/
def dropSuffix (cs : List Char) : List Char :=
  if cs.head?.any isIdentStart then cs.dropWhile isIdentPart else cs

/-! ## Strings and characters -/

/-- The code point written in braces, and the text after the closing one. -/
def readCodePoint (n : Nat) : List Char → Option (Nat × List Char)
  | [] => none
  | c :: cs =>
    if c = '}' then some (n, cs)
    else if c = '_' then readCodePoint n cs
    else
      match hexValue? c with
      | some d => readCodePoint (16 * n + d) cs
      | none => none

/-- The character that an escape stands for, after its backslash. -/
def readEscape : List Char → Option (Char × List Char)
  | 'n' :: cs => some ('\n', cs)
  | 'r' :: cs => some ('\r', cs)
  | 't' :: cs => some ('\t', cs)
  | '0' :: cs => some (Char.ofNat 0, cs)
  | 'x' :: a :: b :: cs =>
    match hexValue? a, hexValue? b with
    | some a, some b => some (Char.ofNat (16 * a + b), cs)
    | _, _ => none
  | 'u' :: c :: cs =>
    if c = '{' then (readCodePoint 0 cs).map fun (n, rest) => (Char.ofNat n, rest) else none
  | c :: cs => if c.toNat = 0x22 ∨ c.toNat = 0x27 ∨ c.toNat = 0x5C then some (c, cs) else none
  | [] => none

/-- Reads a string after its opening quote. A backslash at the end of a line joins the next line,
without the white space at its front. -/
def readString : (fuel : Nat) → List Char → Option (List Char × List Char)
  | 0, _ => none
  | _, [] => none
  | fuel + 1, c :: cs =>
    if c.toNat = 0x22 then some ([], cs)
    else if c.toNat = 0x5C then
      match cs with
      | '\n' :: cs => readString fuel (cs.dropWhile Char.isWhitespace)
      | '\r' :: '\n' :: cs => readString fuel (cs.dropWhile Char.isWhitespace)
      | cs =>
        match readEscape cs with
        | none => none
        | some (e, rest) => (readString fuel rest).map fun (value, rest) => (e :: value, rest)
    else
      match c, cs with
      | '\r', '\n' :: cs => (readString fuel cs).map fun (value, rest) => ('\n' :: value, rest)
      | c, cs => (readString fuel cs).map fun (value, rest) => (c :: value, rest)

/-- Passes over a quoted literal up to its closing quote, escapes included. -/
def skipQuoted (closing : Char) : List Char → Option (List Char)
  | [] => none
  | c :: cs =>
    if c = closing then some cs
    else if c.toNat = 0x5C then
      match cs with
      | _ :: cs => skipQuoted closing cs
      | [] => none
    else skipQuoted closing cs

/-- Reads a raw string after its opening quote, up to a quote followed by the given hashes. -/
def readRaw (hashes : List Char) : List Char → Option (List Char × List Char)
  | [] => none
  | c :: cs =>
    if c.toNat = 0x22 ∧ hashes.isPrefixOf cs then some ([], cs.drop hashes.length)
    else (readRaw hashes cs).map fun (value, rest) => (c :: value, rest)

/-- Reads a raw string from its hashes on. -/
def readRawFrom (cs : List Char) : Option (List Char × List Char) :=
  let (hashes, rest) := cs.span (· == '#')
  match rest with
  | c :: rest => if c.toNat = 0x22 then readRaw hashes rest else none
  | [] => none

/-! ## Numbers -/

/-- The digits of a number without its underscores. -/
def withoutUnderscores (cs : List Char) : List Char := cs.filter (· != '_')

/-- The digit of a base that a character denotes. -/
def baseDigit? (base : Nat) (c : Char) : Option Nat :=
  match hexValue? c with
  | some d => if d < base then some d else none
  | none => none

/-- Reads a whole number of a base, after the mark of the base. No other digit may follow it. -/
def readBased (base : Nat) (cs : List Char) : Option (Literal × List Char) :=
  let (digits, rest) := cs.span fun c => (baseDigit? base c).isSome || c == '_'
  let values := digits.filterMap (baseDigit? base)
  if values.isEmpty || rest.head?.any isDigit then none
  else some (.integer (Nat.toDigits 10 (values.foldl (fun n d => base * n + d) 0)), rest)

/-- The exponent at the front of a text, if it has digits: what it adds to the number, and the rest.
Underscores may stand anywhere in it. A plus sign is left out. -/
def cutExponent : List Char → Option (List Char × List Char)
  | [] => none
  | e :: cs =>
    if e = 'e' ∨ e = 'E' then
      let (sign, rest) :=
        match cs.dropWhile (· == '_') with
        | '+' :: rest => ([], rest)
        | '-' :: rest => (['-'], rest)
        | rest => ([], rest)
      let (digits, rest) := rest.span fun c => isDigit c || c == '_'
      let digits := withoutUnderscores digits
      if digits.isEmpty then none else some ('e' :: sign ++ digits, rest)
    else none

/-- The fraction at the front of a text, with its point. A point before an identifier or another
point is none. -/
def cutPoint : List Char → Option (List Char × List Char)
  | '.' :: cs =>
    if cs.head?.any (fun c => c == '.' || isIdentStart c) then none
    else
      let (digits, rest) := cs.span fun c => isDigit c || c == '_'
      some ('.' :: withoutUnderscores digits, rest)
  | _ => none

/-- Reads a decimal number. -/
def readNumber (cs : List Char) : Option (Literal × List Char) :=
  let (whole, rest) := cs.span fun c => isDigit c || c == '_'
  let whole := withoutUnderscores whole
  let point := cutPoint rest
  let rest := (point.map (·.2)).getD rest
  let power := cutExponent rest
  let rest := (power.map (·.2)).getD rest
  if point.isNone && power.isNone then
    some (.integer (Nat.toDigits 10 (digitsValue whole)), rest)
  else
    some (.float (whole ++ (point.map (·.1)).getD [] ++ (power.map (·.1)).getD []), rest)

/-! ## Tokens -/

/-- A literal that begins with a letter: what it says, and the text after it. -/
def readMarked (fuel : Nat) : List Char → Option (Literal × List Char)
  | 'r' :: '"' :: cs => (readRawFrom ('"' :: cs)).map fun (value, rest) => (.text value, rest)
  | 'r' :: '#' :: cs => (readRawFrom ('#' :: cs)).map fun (value, rest) => (.text value, rest)
  | 'b' :: 'r' :: cs => (readRawFrom cs).map fun (_, rest) => (.other, rest)
  | 'c' :: 'r' :: cs => (readRawFrom cs).map fun (_, rest) => (.other, rest)
  | 'b' :: '"' :: cs => (skipQuoted '"' cs).map fun rest => (.other, rest)
  | 'c' :: '"' :: cs => (readString fuel cs).map fun (_, rest) => (.other, rest)
  | 'b' :: '\'' :: cs => (skipQuoted '\'' cs).map fun rest => (.other, rest)
  | _ => none

/-- Passes over a character literal after its opening quote; a lifetime is none. -/
def readCharacter : List Char → Option (List Char)
  | '\\' :: c :: cs => skipQuoted '\'' ('\\' :: c :: cs)
  | _ :: '\'' :: cs => some cs
  | _ => none

/-- What stands for an expression that could not be expanded. It counts as a literal. -/
def errorMark : List Char := "(/*ERROR*/)".toList

/-- A literal without its suffix at the front of a text: what it says, and the text after it. -/
def readBare (fuel : Nat) : List Char → Option (Literal × List Char)
  | [] => none
  | '0' :: 'x' :: cs => readBased 16 cs
  | '0' :: 'o' :: cs => readBased 8 cs
  | '0' :: 'b' :: cs => readBased 2 cs
  | '"' :: cs => (readString fuel cs).map fun (value, rest) => (.text value, rest)
  | '\'' :: cs => (readCharacter cs).map fun rest => (.other, rest)
  | c :: cs => if isDigit c then readNumber (c :: cs) else readMarked fuel (c :: cs)

/-- A literal at the front of a text: what it says, and the text after it and its suffix. -/
def readLiteral (cs : List Char) : Option (Literal × List Char) :=
  if errorMark.isPrefixOf cs then some (.other, cs.drop errorMark.length)
  else (readBare (cs.length + 1) cs).map fun (value, rest) => (value, dropSuffix rest)

/-- An identifier at the front of a text. -/
def readIdent : List Char → Option (List Char × List Char)
  | 'r' :: '#' :: c :: cs =>
    if isIdentStart c then
      let (name, rest) := (c :: cs).span isIdentPart
      some (rawMark ++ name, rest)
    else none
  | c :: cs => if isIdentStart c then some ((c :: cs).span isIdentPart) else none
  | [] => none

/-- The token at the front of a text. -/
def readOne (cs : List Char) : Option (Token × List Char) :=
  match readLiteral cs with
  | some (value, rest) => some (.literal (cs.take (cs.length - rest.length)) value, rest)
  | none =>
    match readIdent cs with
    | some (name, rest) => some (.ident name, rest)
    | none =>
      match cs with
      | [] => none
      | c :: cs =>
        if "([\x7b".toList.contains c then some (.opening c, cs)
        else if ")]\x7d".toList.contains c then some (.closing c, cs)
        else if isPunctuation c then some (.punct c (startsPunctuation cs || c == '\''), cs)
        else none

/-! ## Comments -/

/-- Passes over a comment between slashes and stars, which may hold others. -/
def skipComment : (depth : Nat) → List Char → Option (List Char)
  | 0, cs => some cs
  | _ + 1, [] => none
  | depth + 1, '*' :: '/' :: cs => skipComment depth cs
  | depth + 1, '/' :: '*' :: cs => skipComment (depth + 2) cs
  | depth + 1, _ :: cs => skipComment (depth + 1) cs

/-- Two slashes followed by this begin a comment that documents something: there is an exclamation
mark or one more slash, but not two. -/
def documentsLine : List Char → Bool
  | '!' :: _ => true
  | '/' :: '/' :: _ => false
  | '/' :: _ => true
  | _ => false

/-- A slash and a star followed by this begin a comment that documents something: there is an
exclamation mark or one more star, but not two, and the comment does not end at once. -/
def documentsBlock : List Char → Bool
  | '!' :: _ => true
  | '*' :: '*' :: _ => false
  | '*' :: '/' :: _ => false
  | '*' :: _ => true
  | _ => false

/-- The text after white space and comments, up to a comment that documents something. -/
def skipTrivia : (fuel : Nat) → List Char → Option (List Char)
  | 0, cs => some cs
  | fuel + 1, cs =>
    match cs.dropWhile isSpace with
    | '/' :: '/' :: rest =>
      if documentsLine rest then some ('/' :: '/' :: rest)
      else skipTrivia fuel (rest.dropWhile (· != '\n'))
    | '/' :: '*' :: rest =>
      if documentsBlock rest then some ('/' :: '*' :: rest)
      else
        match skipComment 1 rest with
        | some rest => skipTrivia fuel rest
        | none => none
    | rest => some rest

/-- A carriage return stands somewhere else than at the end of a line. -/
def hasLoneReturn : List Char → Bool
  | [] => false
  | '\r' :: '\n' :: cs => hasLoneReturn cs
  | '\r' :: _ => true
  | _ :: cs => hasLoneReturn cs

/-- The attribute that a comment with the given text stands for. It belongs to what encloses the
comment if that begins with an exclamation mark, and otherwise to what follows. -/
def documentation (mark : Char) (text : List Char) : Option (List Token) :=
  if hasLoneReturn text then none
  else
    some (.punct '#' false :: (if mark = '!' then [.punct '!' false] else [])
      ++ [.opening '[', .ident "doc".toList, .punct '=' false,
        .literal (quote (String.ofList text)).toList (.text text), .closing ']'])

/-- The tokens of a comment that documents something, if there is one at the front of a text. -/
def readDocumentation : List Char → Option (List Token × List Char)
  | '/' :: '/' :: mark :: cs =>
    let (line, rest) := cs.span (· != '\n')
    let line := if rest.isEmpty || line.getLast? != some '\r' then line else line.dropLast
    (documentation mark line).map fun ts => (ts, rest)
  | '/' :: '*' :: mark :: cs =>
    match skipComment 1 (mark :: cs) with
    | none => none
    | some rest =>
      (documentation mark (cs.take (cs.length - rest.length - 2))).map fun ts => (ts, rest)
  | _ => none

/-! ## Whole texts -/

/-- The tokens at the front of a text that begins with some. -/
def readFront (cs : List Char) : Option (List Token × List Char) :=
  match cs with
  | '/' :: '/' :: _ => readDocumentation cs
  | '/' :: '*' :: _ => readDocumentation cs
  | cs => (readOne cs).map fun (t, rest) => ([t], rest)

/-- The tokens of a text; the fuel bounds how often some are taken from it. -/
def readAll : (fuel : Nat) → List Char → Option (List Token)
  | 0, _ => none
  | fuel + 1, cs =>
    match skipTrivia (cs.length + 1) cs with
    | none => none
    | some [] => some []
    | some cs =>
      match readFront cs with
      | none => none
      | some (ts, rest) => (readAll fuel rest).map (ts ++ ·)

/-- The tokens of a text. -/
def read (cs : List Char) : Option (List Token) := readAll (cs.length + 1) cs

end MetricBundle.Token
