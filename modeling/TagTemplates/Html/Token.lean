import TagTemplates.Html.Names
import TagTemplates.Text.Basic

/-!
# The tokens of a document

A document is text, tags, comments and declarations.  Reading never fails: what is no well-formed
tag is text or a comment.  Inside some elements, such as a script, only the closing tag of the
element is recognised; `rawText` reads their text.

Text tokens are maximal, and the character references in them are replaced.
-/

namespace TagTemplates.Html

/-- A token of a document. -/
inductive Token where
  | text (chars : List Char)
  | start (name : String) (attributes : List (String × String)) (selfClosing : Bool)
  | stop (name : String)
  /-- A comment, a declaration, or what is taken for one. -/
  | comment
  deriving Repr

/-- White space inside of tags. -/
def isTagSpace (c : Char) : Bool :=
  c == ' ' || c == '\t' || c == '\n' || c == '\x0C' || c == '\r'

/-- Line ends become single line feeds. -/
def normalizeNewlines : List Char → List Char
  | [] => []
  | '\r' :: '\n' :: cs => '\n' :: normalizeNewlines cs
  | '\r' :: cs => '\n' :: normalizeNewlines cs
  | c :: cs => c :: normalizeNewlines cs

/-! ## Character references -/

/-- The characters that the code points from 128 to 159 stand for. -/
def controlImages : List Nat := [
  0x20AC, 0x81, 0x201A, 0x192, 0x201E, 0x2026, 0x2020, 0x2021, 0x2C6, 0x2030, 0x160, 0x2039, 0x152,
  0x8D, 0x17D, 0x8F, 0x90, 0x2018, 0x2019, 0x201C, 0x201D, 0x2022, 0x2013, 0x2014, 0x2DC, 0x2122,
  0x161, 0x203A, 0x153, 0x9D, 0x17E, 0x178]

/-- The character of a numeric reference. -/
def numericChar (n : Nat) : Char :=
  if n == 0 || !Nat.isValidChar n then '\uFFFD'
  else if 128 ≤ n && n < 160 then Char.ofNat ((controlImages[n - 128]?).getD n)
  else Char.ofNat n

/-- The value of a run of digits. -/
def valueOf (base : Nat) (digits : List Char) : Nat :=
  digits.foldl (fun n c =>
    let d :=
      if c.isDigit then c.toNat - '0'.toNat
      else if c.isLower then c.toNat - 'a'.toNat + 10
      else c.toNat - 'A'.toNat + 10
    min (base * n + d) 0x110000) 0

/-- Whether a character is a hexadecimal digit. -/
def isHexDigit (c : Char) : Bool := c.isDigit || ('a' ≤ c && c ≤ 'f') || ('A' ≤ c && c ≤ 'F')

/-- Leave out a semicolon. -/
def dropSemicolon : List Char → List Char
  | ';' :: cs => cs
  | cs => cs

/-- Read a numeric reference behind its number sign. -/
def readNumeric (cs : List Char) : Option (List Char × List Char) :=
  let finish (base : Nat) (isDigit : Char → Bool) (cs : List Char) :
      Option (List Char × List Char) :=
    let digits := cs.takeWhile isDigit
    if digits.isEmpty then none
    else some ([numericChar (valueOf base digits)], dropSemicolon (cs.dropWhile isDigit))
  match cs with
  | 'x' :: rest => finish 16 isHexDigit rest
  | 'X' :: rest => finish 16 isHexDigit rest
  | rest => finish 10 Char.isDigit rest

/-- The longest beginning of a word that names a character without a semicolon, by its length. -/
def bareLength (word : List Char) : Nat → Option Nat
  | 0 => none
  | n + 1 =>
    if bareNames.contains (String.ofList (word.take (n + 1))) then some (n + 1)
    else bareLength word n

/-- Read a reference by name behind its ampersand. -/
def readNamed (cs : List Char) : Option (List Char × List Char) :=
  let word := cs.takeWhile Char.isAlphanum
  let bare : Option (List Char × List Char) := do
    let n ← bareLength word (min word.length 8)
    let codes ← namedCodes? (String.ofList (word.take n))
    return (codes.map Char.ofNat, cs.drop n)
  match cs.dropWhile Char.isAlphanum with
  | ';' :: rest =>
    match namedCodes? (String.ofList word) with
    | some codes => some (codes.map Char.ofNat, rest)
    | none => bare
  | _ => bare

/-- Read a reference behind its ampersand: the characters it stands for, and the rest. -/
def readReference : List Char → Option (List Char × List Char)
  | '#' :: rest => readNumeric rest
  | cs => readNamed cs

/-- Replace the character references of a text, with a bound on the number of steps. -/
def decodeWithin : Nat → List Char → List Char
  | 0, cs => cs
  | _, [] => []
  | fuel + 1, c :: cs =>
    if c == '&' then
      match readReference cs with
      | some (chars, rest) => chars ++ decodeWithin fuel rest
      | none => c :: decodeWithin fuel cs
    else c :: decodeWithin fuel cs

/-- Replace the character references of a text. -/
def decode (cs : List Char) : List Char := decodeWithin cs.length cs

/-! ## Tags -/

/-- Read the value of an attribute. -/
def readAttributeValue (cs : List Char) : Option (List Char × List Char) :=
  match cs.dropWhile isTagSpace with
  | '"' :: rest => Text.cutAt? '"' rest
  | '\x27' :: rest => Text.cutAt? '\x27' rest
  | rest =>
    let ends (c : Char) : Bool := isTagSpace c || c == '>'
    some (rest.takeWhile (!ends ·), rest.dropWhile (!ends ·))

/-- Read the rest of a tag behind its name: the attributes, whether it closes itself, and what
follows; `none` when the document ends inside of it. -/
def readTagEnd : Nat → List (String × String) → List Char →
    Option ((List (String × String) × Bool) × List Char)
  | 0, _, _ => none
  | fuel + 1, attributes, cs =>
    match cs.dropWhile isTagSpace with
    | [] => none
    | '>' :: rest => some ((attributes, false), rest)
    | '/' :: '>' :: rest => some ((attributes, true), rest)
    | '/' :: rest => readTagEnd fuel attributes rest
    | c :: rest =>
      let ends (c : Char) : Bool := isTagSpace c || c == '/' || c == '>' || c == '='
      let name := Text.foldChars (c :: rest.takeWhile (!ends ·))
      let afterName := rest.dropWhile (!ends ·)
      match afterName.dropWhile isTagSpace with
      | '=' :: value =>
        match readAttributeValue value with
        | some (value, rest) =>
          readTagEnd fuel (attributes ++ [(String.ofList name, String.ofList value)]) rest
        | none => none
      | _ => readTagEnd fuel (attributes ++ [(String.ofList name, "")]) afterName

/-- Read the name of a tag and the rest of the tag. -/
def readTag (cs : List Char) :
    Option (String × (List (String × String) × Bool) × List Char) :=
  let ends (c : Char) : Bool := isTagSpace c || c == '/' || c == '>'
  let name := String.ofList (Text.foldChars (cs.takeWhile (!ends ·)))
  (readTagEnd (cs.length + 1) [] (cs.dropWhile (!ends ·))).map fun (tail, rest) =>
    (name, tail, rest)

/-! ## Comments -/

/-- The text behind the end of a comment. -/
def afterComment : List Char → List Char
  | [] => []
  | '-' :: '-' :: '>' :: rest => rest
  | '-' :: '-' :: '!' :: '>' :: rest => rest
  | _ :: rest => afterComment rest

/-- The text behind the next closing angle bracket. -/
def afterBracket (cs : List Char) : List Char := (cs.dropWhile (· != '>')).drop 1

/-- The text behind a comment or declaration, given what follows its exclamation mark. -/
def afterDeclaration : List Char → List Char
  | '-' :: '-' :: '>' :: rest => rest
  | '-' :: '-' :: '-' :: '>' :: rest => rest
  | '-' :: '-' :: rest => afterComment rest
  | cs => afterBracket cs

/-! ## Tokens -/

/-- Whether an angle bracket is the beginning of something other than text, given what follows
it. -/
def beginsMarkup : List Char → Bool
  | '/' :: rest => !rest.isEmpty
  | '!' :: _ => true
  | '?' :: _ => true
  | c :: _ => c.isAlpha
  | [] => false

/-- The text before the next markup, and the rest. -/
def textRun : List Char → List Char × List Char
  | [] => ([], [])
  | c :: cs =>
    if c == '<' && beginsMarkup cs then ([], c :: cs)
    else
      let (text, rest) := textRun cs
      (c :: text, rest)

/-- Read markup behind its angle bracket; `none` when the document ends inside of it or it is
nothing. -/
def readMarkup (cs : List Char) : Option Token × List Char :=
  match cs with
  | '!' :: rest => (some .comment, afterDeclaration rest)
  | '?' :: rest => (some .comment, afterBracket rest)
  | '/' :: '>' :: rest => (none, rest)
  | '/' :: rest =>
    if rest.head?.any Char.isAlpha then
      match readTag rest with
      | some (name, _, rest) => (some (.stop name), rest)
      | none => (none, [])
    else (some .comment, afterBracket rest)
  | rest =>
    match readTag rest with
    | some (name, (attributes, selfClosing), rest) =>
      (some (.start name attributes selfClosing), rest)
    | none => (none, [])

/-- Read the next token of a text that is not empty; some markup is no token. -/
def readToken (cs : List Char) : Option Token × List Char :=
  match textRun cs with
  | ([], '<' :: rest) => readMarkup rest
  | (text, rest) => (some (.text (decode text)), rest)

/-! ## Raw text -/

/-- How the text of an element is read in which no tags are recognised. -/
inductive RawKind where
  /-- Character references are replaced. -/
  | references
  | verbatim
  /-- Comments may hide a closing tag. -/
  | script
  /-- Everything to the end of the document. -/
  | endless
  deriving DecidableEq, Repr

/-- Whether a tag with the given name, in any case, begins here, behind its bracket. -/
def hasTagName (name : List Char) (cs : List Char) : Bool :=
  Text.foldChars (cs.take name.length) == name &&
    (cs.drop name.length).head?.any fun c => isTagSpace c || c == '/' || c == '>'

/-- Cut at the closing tag of an element: the text before it, and what follows the tag. -/
def cutAtClose (name : List Char) : List Char → List Char × List Char
  | [] => ([], [])
  | c :: cs =>
    match c, cs with
    | '<', '/' :: rest =>
      if hasTagName name rest then
        match readTag rest with
        | some (_, _, after) => ([], after)
        | none => ([], [])
      else
        let (text, after) := cutAtClose name cs
        (c :: text, after)
    | _, _ =>
      let (text, after) := cutAtClose name cs
      (c :: text, after)

/-- Where a script stands: outside of comments, in a comment, or in a script inside a comment. -/
inductive ScriptPlace where
  | plain
  | comment
  | nested
  deriving DecidableEq, Repr

/-- Cut a script at its closing tag. -/
def cutScript (place : ScriptPlace) : List Char → List Char × List Char
  | [] => ([], [])
  | c :: cs =>
    let keep (place : ScriptPlace) : List Char × List Char :=
      let (text, after) := cutScript place cs
      (c :: text, after)
    let name := "script".toList
    match c, cs with
    | '<', '!' :: '-' :: '-' :: _ => keep (if place = .plain then .comment else place)
    | '<', '/' :: rest =>
      if hasTagName name rest then
        if place = .nested then keep .comment
        else
          match readTag rest with
          | some (_, _, after) => ([], after)
          | none => ([], [])
      else keep place
    | '<', rest => keep (if place = .comment && hasTagName name rest then .nested else place)
    | '-', '-' :: '>' :: _ => keep .plain
    | _, _ => keep place

/-- Leave out a line feed. -/
def dropLineFeed : List Char → List Char
  | '\n' :: cs => cs
  | cs => cs

/-- Read the text of an element in which no tags are recognised, and its closing tag. -/
def rawText (kind : RawKind) (name : String) (cs : List Char) : List Char × List Char :=
  match kind with
  | .endless => (cs, [])
  | .script => cutScript .plain cs
  | .verbatim => cutAtClose name.toList cs
  | .references =>
    let (text, rest) := cutAtClose name.toList cs
    (decode text, rest)

end TagTemplates.Html
