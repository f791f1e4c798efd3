/-!
# Characters and text

The few notions of text that the rest of the library shares.  Text that is being read is a
list of characters, because every reader below recurses on it; names and values are strings.

* `isNameChar` and `isBlank` are the character classes of the tag grammar, both of them ASCII.
* `isSpace` is Unicode white space, which is what surrounds text that is trimmed.
* `fold` is the case folding under which names are compared: ASCII letters only.
* `utf8Size` measures text in bytes of UTF-8, the unit of every reported offset.
* `replaceAll` and `splitAll` treat occurrences of a piece of text from left to right, without
  overlaps.
-/

namespace TagTemplates.Text

/-! ## Character classes -/

/-- Names are made of ASCII letters, ASCII digits and the underscore. -/
def isNameChar (c : Char) : Bool := c.isAlphanum || c == '_'

/-- The two characters that may surround a separator inside a tag. -/
def isBlank (c : Char) : Bool := c == ' ' || c == '\t'

/-- Unicode white space. -/
def isSpace (c : Char) : Bool :=
  let n := c.toNat
  (9 ≤ n && n ≤ 13) || n == 0x20 || n == 0x85 || n == 0xA0 || n == 0x1680 ||
    (0x2000 ≤ n && n ≤ 0x200A) || n == 0x2028 || n == 0x2029 || n == 0x202F ||
    n == 0x205F || n == 0x3000

/-! ## Case folding -/

/-- Fold the ASCII letters of a text to lower case and keep everything else. -/
def foldChars (cs : List Char) : List Char := cs.map Char.toLower

/-- The form of a name under which it is looked up. -/
def fold (s : String) : String := String.ofList (foldChars s.toList)

/-- Two names are the same name when they fold to the same text. -/
def sameName (a b : String) : Bool := fold a == fold b

@[simp] theorem toList_fold (s : String) : (fold s).toList = foldChars s.toList := by
  simp [fold]

theorem sameName_iff {a b : String} : sameName a b = true ↔ fold a = fold b := by
  simp [sameName]

/-! ## Measures and ends -/

/-- The number of bytes that a text takes in UTF-8. -/
def utf8Size : List Char → Nat
  | [] => 0
  | c :: cs => c.utf8Size + utf8Size cs

@[simp] theorem utf8Size_nil : utf8Size [] = 0 := rfl

@[simp] theorem utf8Size_cons (c : Char) (cs : List Char) :
    utf8Size (c :: cs) = c.utf8Size + utf8Size cs := rfl

@[simp] theorem utf8Size_append (as bs : List Char) :
    utf8Size (as ++ bs) = utf8Size as + utf8Size bs := by
  induction as with
  | nil => simp
  | cons a as ih => simp [ih, Nat.add_assoc]

/-- Remove the characters of a class from the end. -/
def dropWhileEnd (p : Char → Bool) (cs : List Char) : List Char :=
  (cs.reverse.dropWhile p).reverse

/-- Remove the characters of a class from both ends. -/
def trimBoth (p : Char → Bool) (cs : List Char) : List Char :=
  dropWhileEnd p (cs.dropWhile p)

/-- Remove white space from both ends. -/
def trim (cs : List Char) : List Char := trimBoth isSpace cs

/-- Whether a text ends in a character of a class. -/
def endsIn (p : Char → Bool) (cs : List Char) : Bool := cs.getLast?.any p

/-- Whether a text begins with a character of a class. -/
def beginsIn (p : Char → Bool) (cs : List Char) : Bool := cs.head?.any p

/-- Whether one string begins with another. -/
def startsWith (s start : String) : Bool := start.toList.isPrefixOf s.toList

/-! ## Occurrences of a piece of text -/

/-- Whether a piece of text occurs in a text. -/
def occursIn (piece : List Char) : List Char → Bool
  | [] => piece.isEmpty
  | c :: cs => piece.isPrefixOf (c :: cs) || occursIn piece cs

/-- Replace every occurrence of a nonempty piece of text, from left to right. -/
def replaceAll (piece image : List Char) : List Char → List Char
  | [] => []
  | c :: cs =>
    if piece.isPrefixOf (c :: cs) then
      image ++ replaceAll piece image (cs.drop (piece.length - 1))
    else
      c :: replaceAll piece image cs
termination_by cs => cs.length
decreasing_by all_goals simp only [List.length_cons, List.length_drop]; omega

/-- Put a piece of text before every character and at the end: what replacing the empty text
amounts to. -/
def interleave (image : List Char) : List Char → List Char
  | [] => image
  | c :: cs => image ++ c :: interleave image cs

/-- Cut a text at every occurrence of a nonempty separator. -/
def splitAll (separator : List Char) (piece : List Char) : List Char → List (List Char)
  | [] => [piece]
  | c :: cs =>
    if separator.isPrefixOf (c :: cs) then
      piece :: splitAll separator [] (cs.drop (separator.length - 1))
    else
      splitAll separator (piece ++ [c]) cs
termination_by cs => cs.length
decreasing_by all_goals simp only [List.length_cons, List.length_drop]; omega

/-- Cut a text at every occurrence of a character. -/
def splitChar (sep : Char) : List Char → List (List Char)
  | [] => [[]]
  | c :: cs =>
    if c = sep then [] :: splitChar sep cs
    else match splitChar sep cs with
      | [] => [[c]]
      | piece :: pieces => (c :: piece) :: pieces

/-- The text before and after the first occurrence of a character. -/
def cutAt? (sep : Char) (cs : List Char) : Option (List Char × List Char) :=
  match cs.dropWhile (· != sep) with
  | [] => none
  | _ :: after => some (cs.takeWhile (· != sep), after)

/-! ## Joining -/

/-- Concatenate texts with a separator between neighbours. -/
def joinWith (sep : List Char) : List (List Char) → List Char
  | [] => []
  | [a] => a
  | a :: b :: rest => a ++ sep ++ joinWith sep (b :: rest)

/-- Concatenate strings with a separator between neighbours. -/
def join (sep : String) (parts : List String) : String :=
  String.ofList (joinWith sep.toList (parts.map String.toList))

/-- Concatenate strings. -/
def concat (parts : List String) : String := parts.foldr (· ++ ·) ""

@[simp] theorem concat_nil : concat [] = "" := rfl

@[simp] theorem concat_cons (a : String) (as : List String) :
    concat (a :: as) = a ++ concat as := rfl

/-! ## Sorting -/

/-- Remove repetitions that stand next to each other. -/
def dropRepeats : List String → List String
  | [] => []
  | [a] => [a]
  | a :: b :: rest => if a = b then dropRepeats (b :: rest) else a :: dropRepeats (b :: rest)

/-- Strings in order, each once. -/
def sortedOnce (names : List String) : List String :=
  dropRepeats (names.mergeSort fun a b => decide (a ≤ b))

/-! ## Digits -/

/-- The value of a run of decimal digits. -/
def digitsValue (cs : List Char) : Nat :=
  cs.foldl (fun n c => 10 * n + (c.toNat - '0'.toNat)) 0

/-- The decimal digits of a natural number. -/
def natDigits (n : Nat) : List Char := Nat.toDigits 10 n

/-- The decimal text of an integer. -/
def intDigits (i : Int) : List Char :=
  if i < 0 then '-' :: natDigits i.natAbs else natDigits i.natAbs

/-- Read an optionally signed run of decimal digits. -/
def readInt? (cs : List Char) : Option Int :=
  let unsigned (ds : List Char) : Option Int :=
    if !ds.isEmpty && ds.all Char.isDigit then some (digitsValue ds) else none
  match cs with
  | '-' :: ds => (unsigned ds).map (- ·)
  | '+' :: ds => unsigned ds
  | ds => unsigned ds

end TagTemplates.Text
