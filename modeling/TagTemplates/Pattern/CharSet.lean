import TagTemplates.Text.Case

/-!
# Sets of characters

The sets that a pattern names: ranges, the classes of digits, word characters and white space, and
what unions, intersections and complements make of them.  A set can be widened so that it no longer
tells letters apart that differ in case.
-/

namespace TagTemplates

/-- A set of characters. -/
inductive CharSet where
  | range (first last : Nat)
  | digit
  | word
  | space
  | union (a b : CharSet)
  | inter (a b : CharSet)
  | complement (a : CharSet)
  /-- The characters that are, up to case, in a set. -/
  | anyCase (a : CharSet)
  deriving DecidableEq, Repr

namespace CharSet

/-- The empty set. -/
def none : CharSet := range 1 0

def ofChar (c : Char) : CharSet := range c.toNat c.toNat

/-- The characters of a difference. -/
def minus (a b : CharSet) : CharSet := inter a (complement b)

/-- The characters that differ from a character at most by case. -/
def casings (c : Char) : List Char :=
  let single : List Char → List Char
    | [d] => [d]
    | _ => []
  let others :=
    if c == 'k' || c == 'K' then ['\u212A']
    else if c == 's' || c == 'S' then ['\u017F']
    else []
  [c, Text.caseKey c] ++ single (Text.lowerChar c) ++ single (Text.upperChar c) ++
    single (Text.upperChar (Text.caseKey c)) ++ others

/-- Whether a character is in a set. -/
def contains : CharSet → Char → Bool
  | range first last, c => first ≤ c.toNat && c.toNat ≤ last
  | digit, c => Text.isDecimalDigit c
  | word, c => Text.isWordChar c
  | space, c => Text.isSpace c
  | union a b, c => a.contains c || b.contains c
  | inter a b, c => a.contains c && b.contains c
  | complement a, c => !a.contains c
  | anyCase a, c => (casings c).any a.contains

end CharSet

end TagTemplates
