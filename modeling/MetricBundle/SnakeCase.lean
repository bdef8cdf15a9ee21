import MetricBundle.Text.LetterCase

/-!
# Snake case

A metric is named after the identifier of its field, in snake case: the words of the identifier,
lowered and joined by `_`. Words end where `_` is written and before a capital that follows a small
letter. A run of capitals is one word, except that its last letter starts the next word when a small
letter follows it: `RequestURI` has the words `request` and `uri`, and `HTTPServer` has `http` and
`server`.

`WordReader` reads an identifier one character at a time.
-/

namespace MetricBundle

/-- The words read so far, the word being read, and whether that word has been capitals only. -/
structure WordReader where
  words : List (List Char) := []
  word : List Char := []
  capitals : Bool := false
deriving DecidableEq

namespace WordReader

/-- Ends the word being read, if it has begun. -/
def close (r : WordReader) : WordReader :=
  if r.word.isEmpty then r else { r with words := r.words ++ [r.word], word := [] }

/-- Takes a small letter inside a word. It ends a run of capitals, and the last character of a
longer run begins a new word with it. -/
def takeSmall (r : WordReader) (c : Char) : WordReader :=
  if r.capitals && decide (1 < r.word.length) then
    { words := r.words ++ [r.word.dropLast]
      word := r.word.drop (r.word.length - 1) ++ [c]
      capitals := false }
  else { r with word := r.word ++ [c], capitals := false }

/-- Takes a capital inside a word. It begins a new word unless the word is a run of capitals. -/
def takeCapital (r : WordReader) (c : Char) : WordReader :=
  if r.capitals then { r with word := r.word ++ LetterCase.lowered c }
  else { words := r.words ++ [r.word], word := LetterCase.lowered c, capitals := true }

/-- Takes the next character of an identifier. -/
def take (r : WordReader) (c : Char) : WordReader :=
  if c = '_' then r.close
  else if r.word.isEmpty then
    { r with word := LetterCase.lowered c, capitals := LetterCase.isUpper c }
  else if LetterCase.isLower c then r.takeSmall c
  else if LetterCase.isUpper c then r.takeCapital c
  else { r with word := r.word ++ [c] }

end WordReader

/-- The words of an identifier, lowered. -/
def snakeWords (cs : List Char) : List (List Char) :=
  (cs.foldl WordReader.take {}).close.words

/-- An identifier in snake case. -/
def snakeCase (cs : List Char) : List Char := ['_'].intercalate (snakeWords cs)

/-- The first occurrence of a character replaced by a text. -/
def replaceFirst (c : Char) (replacement : List Char) : List Char → List Char
  | [] => []
  | d :: ds => if d = c then replacement ++ ds else d :: replaceFirst c replacement ds

/-- In a given name, the first of these stands for the identifier in snake case. -/
def nameWildcard : Char := '*'

/-- The metric name of a field: the given name with the identifier put in for its wildcard, or the
identifier itself when no name is given. -/
def metricName (ident : String) (given : Option String) : String :=
  let snake := snakeCase ident.toList
  match given with
  | none => String.ofList snake
  | some name =>
    if name.isEmpty then String.ofList snake
    else String.ofList (replaceFirst nameWildcard snake name.toList)

end MetricBundle
