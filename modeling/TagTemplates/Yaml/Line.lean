import TagTemplates.Text.Basic

/-!
# Lines of a YAML text

Blanks, line breaks, and the places between them.  A line break inside a scalar stands for a line
feed, except for the two Unicode separators, which stand for themselves.

* `Place` is where a token stands; `Place.after` moves it over a text.
* `Gap` is a run of blanks and line breaks inside a scalar that is folded.
* `Margin` is what stands in front of a line of a block scalar.
-/

namespace TagTemplates.Yaml

/-! ## Classes of characters -/

/-- The two separators that are line breaks and stand for themselves. -/
def isSeparator (c : Char) : Bool := c.toNat == 0x2028 || c.toNat == 0x2029

def isBreak (c : Char) : Bool :=
  c == '\n' || c == '\r' || c.toNat == 0x85 || isSeparator c

/-- Whether a text ends here, or goes on with a blank or a line break. -/
def endsWord : List Char → Bool
  | [] => true
  | c :: _ => Text.isBlank c || isBreak c

/-- The characters of anchors, of the handles of tags, and of the names of directives. -/
def isWordChar (c : Char) : Bool := c.isAlphanum || c == '_' || c == '-'

/-- The characters that a YAML text may hold. -/
def isAllowed (c : Char) : Bool :=
  let n := c.toNat
  n == 9 || n == 10 || n == 13 || (0x20 ≤ n && n ≤ 0x7E) || n == 0x85 ||
    (0xA0 ≤ n && n ≤ 0xFFFD) || 0x10000 ≤ n

/-- What a line break stands for inside a scalar. -/
def breakText (c : Char) : List Char := if isSeparator c then [c] else ['\n']

/-- A line break at the beginning of a text: what it stands for, and the text behind it. -/
def takeBreak : List Char → List Char × List Char
  | '\r' :: '\n' :: rest => (['\n'], rest)
  | c :: rest => if isBreak c then (breakText c, rest) else ([], c :: rest)
  | [] => ([], [])

/-- Whether one of the two marks between documents stands at the beginning of a line. -/
def atDocumentMark : List Char → Bool
  | a :: b :: c :: rest =>
    ((a == '-' && b == '-' && c == '-') || (a == '.' && b == '.' && c == '.')) && endsWord rest
  | _ => false

/-! ## Places -/

/-- A place in a text: its line, its column, and the number of characters before it. -/
structure Place where
  line : Nat := 0
  column : Nat := 0
  index : Nat := 0
  deriving DecidableEq, Repr

/-- The place behind a text that begins at a place. -/
def Place.after (place : Place) : List Char → Place
  | [] => place
  | '\r' :: '\n' :: rest => Place.after ⟨place.line + 1, 0, place.index + 2⟩ rest
  | c :: rest =>
    if isBreak c then Place.after ⟨place.line + 1, 0, place.index + 1⟩ rest
    else Place.after ⟨place.line, place.column + 1, place.index + 1⟩ rest

/-! ## Gaps -/

/-- Blanks and line breaks inside a scalar.  Blanks only count as long as no line break has been
met. -/
structure Gap where
  blanks : List Char := []
  /-- Whether there is a line break. -/
  isBroken : Bool := false
  /-- What the first line break stands for. -/
  first : List Char := []
  /-- What the other line breaks stand for. -/
  others : List Char := []
  /-- The column behind the last line break. -/
  column : Nat := 0

namespace Gap

def addBreak (gap : Gap) (text : List Char) : Gap :=
  if gap.isBroken then { gap with others := gap.others ++ text, column := 0 }
  else { isBroken := true, first := text }

/-- Read a gap.  Behind a line break, a tab must not stand left of the indentation. -/
def read (indent : Nat) (gap : Gap) : List Char → Option (Gap × List Char)
  | [] => some (gap, [])
  | '\r' :: '\n' :: rest => read indent (gap.addBreak ['\n']) rest
  | c :: rest =>
    if Text.isBlank c then
      if !gap.isBroken then read indent { gap with blanks := gap.blanks ++ [c] } rest
      else if c == '\t' && gap.column < indent then none
      else read indent { gap with column := gap.column + 1 } rest
    else if isBreak c then read indent (gap.addBreak (breakText c)) rest
    else some (gap, c :: rest)

/-- What a gap stands for: one line feed is folded into a space, and dropped before others. -/
def text (gap : Gap) : List Char :=
  if !gap.isBroken then gap.blanks
  else if gap.first == ['\n'] then (if gap.others.isEmpty then [' '] else gap.others)
  else gap.first ++ gap.others

end Gap

/-! ## Margins -/

/-- The empty lines and the indentation in front of a line of a block scalar. -/
structure Margin where
  /-- What the line breaks of the empty lines stand for. -/
  breaks : List Char := []
  /-- The column that has been reached in the current line. -/
  column : Nat := 0
  /-- The widest column of any line. -/
  widest : Nat := 0

namespace Margin

def reach (margin : Margin) : Margin :=
  { margin with widest := max margin.widest margin.column }

def addBreak (margin : Margin) (text : List Char) : Margin :=
  { margin.reach with breaks := margin.breaks ++ text, column := 0 }

/-- Read a margin, up to the given indentation if it is known.  A tab must not stand within it. -/
def read (indent : Option Nat) (margin : Margin) : List Char → Option (Margin × List Char)
  | [] => some (margin.reach, [])
  | '\r' :: '\n' :: rest => read indent (margin.addBreak ['\n']) rest
  | c :: rest =>
    let isOpen := indent.all (margin.column < ·)
    if c == ' ' && isOpen then read indent { margin with column := margin.column + 1 } rest
    else if c == '\t' && isOpen then none
    else if isBreak c then read indent (margin.addBreak (breakText c)) rest
    else some (margin.reach, c :: rest)

end Margin

end TagTemplates.Yaml
