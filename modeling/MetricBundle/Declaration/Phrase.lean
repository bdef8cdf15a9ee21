import MetricBundle.Declaration.Reader

/-!
# Phrases of a declaration

A phrase is a type, a pattern, an expression, a block or an item. Reading it gives its standard
tokens, in which it is written back: most phrases are written back as they are, but lifetimes come
first in lists in angle brackets, empty lists of parameters and bounds and empty conditions are left
out, and indices are decimal. Some phrases are kept as they are written instead.

The phrases contain each other. What a phrase is made of is said in terms of the readings of the
phrases inside it, which are asked for by `Category`.
-/

namespace MetricBundle

/-- An argument of a path, as far as the meaning of a type goes. -/
inductive PathArgument where
  /-- A type. Its name is the last one of its path, if it is a path by itself. -/
  | type (name : Option (List Char))
  /-- A lifetime, a constant or something associated. -/
  | other
deriving DecidableEq

/-- What follows the last name of a path. -/
inductive LastArguments where
  | none
  | angle (arguments : List PathArgument)
  | parenthesized
deriving DecidableEq

/-- A path: whether it begins with a type in angle brackets or with a separator, its names, whether
a name has arguments, and those of the last one. -/
structure PathForm where
  qualified : Bool
  rooted : Bool
  names : List (List Char)
  plain : Bool
  arguments : LastArguments
deriving DecidableEq

namespace PathForm

def lastName (p : PathForm) : List Char := p.names.getLast?.getD []

/-- The path can name a macro. -/
def isSimple (p : PathForm) : Bool := !p.qualified && p.plain

/-- The path can name something associated with a type. -/
def isAssociated (p : PathForm) : Bool :=
  !p.qualified && !p.rooted && p.names.length == 1 && p.arguments != .parenthesized

end PathForm

/-- What a phrase is to the phrases around it. -/
inductive Form where
  | path (p : PathForm)
  | parenthesized
  /-- A range of expressions or patterns, which is `open` if it has no beginning. -/
  | range (isOpen : Bool)
  /-- An expression or pattern that begins with something kept as it is written. -/
  | written
  | other
deriving DecidableEq

structure Phrase where
  tokens : List Token
  form : Form := .other

/-- The kinds of phrases that others contain. -/
inductive Category where
  /-- A type, to which more bounds may be added after a plus sign if `plus` holds. -/
  | type (plus : Bool)
  /-- What a type parameter is bounded by. -/
  | bound
  /-- A pattern that is no list of alternatives. -/
  | pattern
  /-- An expression. Braces after a path belong to it only if `braces` holds. -/
  | expression (braces : Bool)
  /-- An expression without operators between two operands. -/
  | operand (braces : Bool)
  /-- An expression that, if it begins with a block, goes on after it only with a member. -/
  | body
  /-- Statements in braces. -/
  | block
  | item
deriving DecidableEq

/-- How the phrases inside a phrase are read. -/
abbrev Readings := Category → Reader Phrase

namespace Readings

variable (read : Readings)

def typeTokens (plus : Bool) : Reader (List Token) := return (← read (.type plus)).tokens

def boundTokens : Reader (List Token) := return (← read .bound).tokens

def patternTokens : Reader (List Token) := return (← read .pattern).tokens

def expressionTokens (braces : Bool) : Reader (List Token) :=
  return (← read (.expression braces)).tokens

def blockTokens : Reader (List Token) := return (← read .block).tokens

def itemTokens : Reader (List Token) := return (← read .item).tokens

end Readings

/-! ## Lists in angle brackets -/

/-- An entry of a list in angle brackets. -/
structure Entry where
  tokens : List Token
  isLifetime : Bool

namespace Entry

/-- The comma that sets off the last lifetime from other entries. -/
def comma : List Token := [.punct ',' false]

/-- Entries with the lifetimes first, each group in its order. The last lifetime is set off from
what follows by a comma, also if it was the last entry. -/
def lifetimesFirst (entries : List (Entry × List Token)) : List Token :=
  let written : Entry × List Token → List Token := fun (e, after) => e.tokens ++ after
  let (lifetimes, others) := entries.partition fun (e, _) => e.isLifetime
  let setOff := !others.isEmpty && lifetimes.getLast?.any fun (_, after) => after.isEmpty
  lifetimes.flatMap written ++ (if setOff then comma else []) ++ others.flatMap written

end Entry

end MetricBundle
