import TagTemplates.Pattern.CharSet

/-!
# Patterns

A pattern is searched for in a text: it matches when some stretch of the text is of its form.  Where
a stretch ends does not matter, so matching works on sets of places.  `Pattern.reach` takes the
places at which a pattern may begin to the places at which it may then end; a repetition goes on
until no new place is found.
-/

namespace TagTemplates

/-- A condition on a place in a text. -/
inductive Assertion where
  | textStart
  | textEnd
  | lineStart
  | lineEnd
  | wordBoundary
  | noWordBoundary
  | wordStart
  | wordEnd
  deriving DecidableEq, Repr

/-- A pattern. -/
inductive Pattern where
  | empty
  | one (set : CharSet)
  | check (assertion : Assertion)
  | seq (a b : Pattern)
  | alt (a b : Pattern)
  | star (a : Pattern)
  deriving DecidableEq, Repr

/-- Whether a condition holds between the character before a place and the one behind it. -/
def Assertion.holds (before after : Option Char) : Assertion → Bool
  | textStart => before.isNone
  | textEnd => after.isNone
  | lineStart => before.isNone || before == some '\n'
  | lineEnd => after.isNone || after == some '\n'
  | wordBoundary => before.any Text.isWordChar != after.any Text.isWordChar
  | noWordBoundary => before.any Text.isWordChar == after.any Text.isWordChar
  | wordStart => !before.any Text.isWordChar && after.any Text.isWordChar
  | wordEnd => before.any Text.isWordChar && !after.any Text.isWordChar

namespace Pattern

/-- The pattern of a given text. -/
def literal (cs : List Char) : Pattern := cs.foldr (fun c p => seq (one (.ofChar c)) p) empty

/-- A pattern or nothing. -/
def optional (p : Pattern) : Pattern := alt p empty

/-- A pattern a given number of times in a row. -/
def times (p : Pattern) : Nat → Pattern
  | 0 => empty
  | n + 1 => seq p (times p n)

/-- A pattern at most a given number of times in a row. -/
def atMost (p : Pattern) : Nat → Pattern
  | 0 => empty
  | n + 1 => optional (seq p (atMost p n))

/-- A pattern from a least to a greatest number of times in a row. -/
def repeated (p : Pattern) (least : Nat) : Option Nat → Pattern
  | none => seq (times p least) (star p)
  | some most => seq (times p least) (atMost p (most - least))

/-! ## Matching -/

/-- The character before a place. -/
def before? (text : Array Char) (i : Nat) : Option Char := if i = 0 then none else text[i - 1]?

/-- Put places into a set of places. -/
def addPlaces (places new : List Nat) : List Nat :=
  new.foldl (fun acc i => if acc.contains i then acc else i :: acc) places

/-- Add the places reached from a set of places until there are no new ones. -/
def closure (next : List Nat → List Nat) : Nat → List Nat → List Nat
  | 0, places => places
  | fuel + 1, places =>
    let more := addPlaces places (next places)
    if more.length == places.length then places else closure next fuel more

/-- The places at which a pattern can end that begins at one of the given places. -/
def reach (text : Array Char) : Pattern → List Nat → List Nat
  | empty, places => places
  | one set, places =>
    places.filterMap fun i => if text[i]?.any set.contains then some (i + 1) else none
  | check a, places => places.filter fun i => a.holds (before? text i) text[i]?
  | seq a b, places => b.reach text (a.reach text places)
  | alt a b, places => addPlaces (a.reach text places) (b.reach text places)
  | star a, places => closure (a.reach text) (text.size + 1) places

/-- Whether some stretch of a text is of the form of a pattern. -/
def isIn (p : Pattern) (text : List Char) : Bool :=
  let chars := text.toArray
  !(p.reach chars (List.range (chars.size + 1))).isEmpty

end Pattern

end TagTemplates
