import TagTemplates.Toml.Scalar
import TagTemplates.Toml.Table

/-!
# TOML documents

`readDocument?` reads a text as a document, a table of keys and values.  Lists and inline tables may
be nested, up to `maxDepth` of them; the reader of values recurses on the depth that is left.
-/

namespace TagTemplates.Toml

/-- The number of lists and inline tables that may be open at once. -/
def maxDepth : Nat := 80

/-! ## Values -/

/-- The items of a list behind its bracket, with a bound on their number.  A comma may stand behind
the last one. -/
def readItems (item : List Char → Option (Datum × List Char)) :
    Nat → List Char → Option (List Datum × List Char)
  | 0, _ => none
  | fuel + 1, cs =>
    match skipLines cs.length cs with
    | ']' :: rest => some ([], rest)
    | cs => do
      let (datum, rest) ← item cs
      match skipLines rest.length rest with
      | ',' :: rest =>
        let (items, rest) ← readItems item fuel rest
        return (datum :: items, rest)
      | ']' :: rest => return ([datum], rest)
      | _ => none

/-- A key and a value with the sign between them. -/
def readPair (item : List Char → Option (Datum × List Char)) (cs : List Char) :
    Option (List String × Datum × List Char) := do
  let (key, rest) ← readKey (cs.length + 1) cs
  match rest with
  | '=' :: rest =>
    let (datum, rest) ← item (skipBlanks rest)
    return (key, datum, rest)
  | _ => none

/-- Set a key with a nonempty list of parts. -/
def setKey (key : List String) (datum : Datum) (entries : Entry.Entries) :
    Option Entry.Entries := do
  Entry.set key.dropLast (← key.getLast?) datum entries

/-- The entries of an inline table, with a bound on their number. -/
def readEntries (item : List Char → Option (Datum × List Char)) :
    Nat → Entry.Entries → List Char → Option (Entry.Entries × List Char)
  | 0, _, _ => none
  | fuel + 1, entries, cs => do
    let (key, datum, rest) ← readPair item cs
    let entries ← setKey key datum entries
    match skipBlanks rest with
    | ',' :: rest => readEntries item fuel entries rest
    | '\x7d' :: rest => return (entries, rest)
    | _ => none

/-- Read a value, given how many more lists and tables may be opened. -/
def readValue : Nat → List Char → Option (Datum × List Char)
  | depth, cs =>
    match cs with
    | '"' :: _ => (readString cs).map fun (s, rest) => (.text s, rest)
    | '\x27' :: _ => (readString cs).map fun (s, rest) => (.text s, rest)
    | '[' :: rest =>
      match depth with
      | 0 => none
      | depth + 1 =>
        (readItems (readValue depth) (rest.length + 1) rest).map fun (items, rest) =>
          (.list items, rest)
    | '\x7b' :: rest =>
      match depth with
      | 0 => none
      | depth + 1 =>
        match skipBlanks rest with
        | '\x7d' :: rest => some (.map [], rest)
        | rest =>
          (readEntries (readValue depth) (rest.length + 1) [] rest).map fun (entries, rest) =>
            (.map (Entry.entriesToData entries), rest)
    | _ => readPlain cs

/-! ## Lines -/

/-- Read a heading behind its brackets, up to the brackets that close it. -/
def readHeading (close : List Char) (cs : List Char) :
    Option (List String × String × List Char) := do
  let (key, rest) ← readKey (cs.length + 1) cs
  if close.isPrefixOf rest then
    return (key.dropLast, ← key.getLast?, ← endLine? (rest.drop close.length))
  else none

/-- Read the lines of a document, given the path of the table that they belong to. -/
def readLines : Nat → List String → Entry.Entries → List Char → Option Entry.Entries
  | 0, _, _, _ => none
  | fuel + 1, heading, root, cs =>
    match skipLines cs.length cs with
    | [] => some root
    | '[' :: '[' :: rest => do
      let (path, name, rest) ← readHeading [']', ']'] rest
      readLines fuel (path ++ [name]) (← Entry.addItem path name root) rest
    | '[' :: rest => do
      let (path, name, rest) ← readHeading [']'] rest
      readLines fuel (path ++ [name]) (← Entry.addHeading path name root) rest
    | cs => do
      let (key, datum, rest) ← readPair (readValue maxDepth) cs
      let root ← Entry.setBelow heading key.dropLast (← key.getLast?) datum root
      readLines fuel heading root (← endLine? rest)

/-- The entries of the document that a text is. -/
def readDocument? (text : String) : Option (List (Datum × Datum)) :=
  let cs := text.toList
  let cs := if Text.beginsIn (·.toNat == 0xFEFF) cs then cs.drop 1 else cs
  (readLines (cs.length + 1) [] [] cs).map Entry.entriesToData

end TagTemplates.Toml
