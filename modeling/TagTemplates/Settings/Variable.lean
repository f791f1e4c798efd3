import TagTemplates.Datum
import TagTemplates.Yaml.ScalarText

/-!
# The values of variables

A setting that is given by an environment variable is written on one line, in a small notation of
its own: truth values, numbers, strings and characters in quotes, lists in brackets, and maps in
braces.  Everything else is a text, with white space around it removed.  A value that begins in the
notation but does not follow it is a text just as it stands.

Every reader gives what it has read and the text behind it.  Loops over the items of a list or a map
are bounded by the length of the text.
-/

namespace TagTemplates.Variable

def isSpace (c : Char) : Bool := c == ' ' || c == '\t' || c == '\n'

def skipSpace (cs : List Char) : List Char := cs.dropWhile isSpace

/-- The characters that end a value without quotes. -/
def isSeparator (c : Char) : Bool := ",\x7b\x7d[]".toList.contains c

/-! ## Texts -/

/-- The character of an escape, after its backslash. -/
def readEscape : List Char → Option (Char × List Char)
  | [] => none
  | c :: rest =>
    match c with
    | '"' => some ('"', rest)
    | '\\' => some ('\\', rest)
    | 'b' => some (Char.ofNat 8, rest)
    | 'f' => some (Char.ofNat 12, rest)
    | 'n' => some ('\n', rest)
    | 'r' => some ('\r', rest)
    | 't' => some ('\t', rest)
    | 'u' => Yaml.readCode 4 rest
    | 'U' => Yaml.readCode 8 rest
    | _ => none

/-- Read a string behind its opening quote; the text so far has its last character first. -/
def readQuoted : Nat → List Char → List Char → Option (String × List Char)
  | 0, _, _ => none
  | fuel + 1, text, cs =>
    match cs with
    | [] => none
    | '"' :: rest => some (String.ofList text.reverse, rest)
    | '\\' :: rest => do
      let (c, rest) ← readEscape rest
      readQuoted fuel (c :: text) rest
    | c :: rest =>
      if c == '\t' || (0x20 ≤ c.toNat && c.toNat != 0x7F) then readQuoted fuel (c :: text) rest
      else none

/-! ## Numbers -/

/-- The whole number that a text is, if it fits in a 64-bit word. -/
def whole? (cs : List Char) : Option Int :=
  (Text.readInt? cs).filter Number.fitsWord

/-- The value of a text without quotes: numbers with a point are fractional. -/
def plain (cs : List Char) : Datum :=
  match if cs.contains '.' then Number.Binary64.read? cs else none with
  | some x => .fractional x
  | none =>
    match whole? cs with
    | some n => .whole n
    | none => .text (String.ofList cs)

/-! ## Values -/

/-- The items of a list or a map behind its opening bracket.  A comma may stand behind the last
one. -/
def readItems (close : Char) (item : List Char → Option (α × List Char)) :
    Nat → List Char → Option (List α × List Char)
  | 0, _ => none
  | fuel + 1, cs =>
    if cs.head? == some close then some ([], cs.drop 1)
    else do
      let (value, rest) ← item cs
      match rest with
      | ',' :: rest =>
        let (values, rest) ← readItems close item fuel rest
        return (value :: values, rest)
      | c :: rest => if c == close then return ([value], rest) else none
      | [] => none

/-- The name of an entry of a map. -/
def readName (cs : List Char) : Option (String × List Char) :=
  match cs with
  | '"' :: rest => readQuoted (rest.length + 1) [] rest
  | cs =>
    let isNameChar (c : Char) : Bool := !isSeparator c && c != '='
    let name := cs.takeWhile isNameChar
    if name.isEmpty then none else some (String.ofList name, cs.dropWhile isNameChar)

/-- An entry of a map. -/
def readEntry (item : List Char → Option (Datum × List Char)) (cs : List Char) :
    Option ((Datum × Datum) × List Char) := do
  let (name, rest) ← readName (skipSpace cs)
  match skipSpace rest with
  | '=' :: rest =>
    let (value, rest) ← item rest
    return ((.text name, value), rest)
  | _ => none

/-- Read a value with white space around it, given a bound on the depth of its nesting. -/
def readValue : Nat → List Char → Option (Datum × List Char)
  | 0, _ => none
  | depth + 1, cs =>
    let answer : Option (Datum × List Char) :=
      match skipSpace cs with
      | 't' :: 'r' :: 'u' :: 'e' :: rest => some (.bool true, rest)
      | 'f' :: 'a' :: 'l' :: 's' :: 'e' :: rest => some (.bool false, rest)
      | '[' :: rest =>
        (readItems ']' (readValue depth) (rest.length + 1) rest).map fun (items, rest) =>
          (.list items, rest)
      | '\x7b' :: rest =>
        (readItems '\x7d' (readEntry (readValue depth)) (rest.length + 1) rest).map
          fun (entries, rest) => (.map entries, rest)
      | '"' :: rest =>
        (readQuoted (rest.length + 1) [] rest).map fun (text, rest) => (.text text, rest)
      | '\x27' :: c :: '\x27' :: rest => some (.text (String.ofList [c]), rest)
      | '\x27' :: _ => none
      | rest =>
        some (plain (Text.trim (rest.takeWhile (!isSeparator ·))), rest.dropWhile (!isSeparator ·))
    answer.map fun (value, rest) => (value, skipSpace rest)

/-- The value of a variable. -/
def read (text : String) : Datum :=
  let cs := text.toList
  match readValue (cs.length + 1) cs with
  | some (value, []) => value
  | _ => .text text

end TagTemplates.Variable
