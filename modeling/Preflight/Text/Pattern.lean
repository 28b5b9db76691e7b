/-!
# Patterns over characters

A pattern reads a prefix of a list of characters in every way it can, and gives the rest
after each reading, in the order a backtracking matcher tries them. A text matches a pattern
when one of the readings leaves nothing.
-/

set_option autoImplicit false

namespace Preflight.Text

/-- A pattern: the rests of the text after each way of reading a prefix. -/
abbrev Pattern := List Char → List (List Char)

namespace Pattern

/-- One character that satisfies a test. -/
def one (p : Char → Bool) : Pattern
  | c :: rest => if p c then [rest] else []
  | [] => []

/-- One given character. -/
def lit (c : Char) : Pattern := one (· == c)

/-- A given word. -/
def word (w : String) : Pattern := fun s =>
  if w.toList.isPrefixOf s then [s.drop w.length] else []

/-- Nothing. -/
def empty : Pattern := fun s => [s]

/-- One pattern, then another. -/
def andThen (a b : Pattern) : Pattern := fun s => (a s).flatMap b

/-- Either pattern, the first tried first. -/
def orElse (a b : Pattern) : Pattern := fun s => a s ++ b s

/-- Patterns one after another. -/
def seq (ps : List Pattern) : Pattern := ps.foldr andThen empty

/-- Any of the patterns, in order. -/
def any (ps : List Pattern) : Pattern := fun s => ps.flatMap (fun p => p s)

/-- The pattern or nothing, the pattern tried first. -/
def opt (a : Pattern) : Pattern := orElse a empty

/-- The pattern repeated as often as it reads, at most `n` times, longer readings first;
only readings that consume characters are repeated. -/
def repeatUpTo (a : Pattern) : Nat → Pattern
  | 0 => empty
  | n + 1 => fun s =>
    ((a s).filter (fun r => r.length < s.length)).flatMap (repeatUpTo a n) ++ [s]

/-- The pattern repeated any number of times, longer readings first. -/
def many (a : Pattern) : Pattern := fun s => repeatUpTo a (s.length + 1) s

/-- The pattern at least once. -/
def many1 (a : Pattern) : Pattern := andThen a (many a)

/-- Whether a pattern reads the whole text. -/
def readsAll (p : Pattern) (s : List Char) : Bool :=
  (p s).any List.isEmpty

/-- A decimal digit. -/
def digit : Pattern := one (fun c => '0' ≤ c && c ≤ '9')

/-- A character among those of a word. -/
def oneOf (w : String) : Pattern := one (fun c => w.toList.contains c)

end Pattern

end Preflight.Text
