import TagTemplates.Json.Reader
import TagTemplates.Yaml.ScalarText

/-!
# Texts and keys of TOML

Blanks, comments and line breaks; strings in their four forms; and keys, whose parts are joined by
dots.  Every reader gives what it has read and the text behind it.
-/

namespace TagTemplates.Toml

/-! ## Lines -/

def skipBlanks (cs : List Char) : List Char := cs.dropWhile Text.isBlank

/-- The characters that may stand in a comment, and in any string once its own signs are taken
away. -/
def isPlain (c : Char) : Bool :=
  c == '\t' || (0x20 ≤ c.toNat && c.toNat ≤ 0x7E) || 0x80 ≤ c.toNat

/-- The text behind a line break. -/
def afterBreak? : List Char → Option (List Char)
  | '\n' :: rest => some rest
  | '\r' :: '\n' :: rest => some rest
  | _ => none

/-- Skip a comment, if there is one. -/
def skipComment (cs : List Char) : List Char :=
  match cs with
  | '#' :: rest => rest.dropWhile isPlain
  | rest => rest

/-- Read the end of a line, where a comment may stand. -/
def endLine? (cs : List Char) : Option (List Char) :=
  let rest := skipComment (skipBlanks cs)
  if rest.isEmpty then some [] else afterBreak? rest

/-- Skip blanks, comments and line breaks.  The bound is the length of the text. -/
def skipLines : Nat → List Char → List Char
  | 0, cs => cs
  | fuel + 1, cs =>
    let rest := skipComment (skipBlanks cs)
    match afterBreak? rest with
    | some rest => skipLines fuel rest
    | none => rest

/-! ## Strings -/

/-- The character of an escape, after its backslash. -/
def readEscape : List Char → Option (Char × List Char)
  | [] => none
  | c :: rest =>
    let code (n : Nat) : Option (Char × List Char) := some (Char.ofNat n, rest)
    match c with
    | 'b' => code 8
    | 't' => code 9
    | 'n' => code 10
    | 'f' => code 12
    | 'r' => code 13
    | '"' => code 0x22
    | '\\' => code 0x5C
    | 'u' => Yaml.readCode 4 rest
    | 'U' => Yaml.readCode 8 rest
    | _ => none

/-- Skip blanks and line breaks behind a backslash that ends a line. -/
def skipJoint : Nat → List Char → List Char
  | 0, cs => cs
  | fuel + 1, cs =>
    match afterBreak? (skipBlanks cs) with
    | some rest => skipJoint fuel rest
    | none => skipBlanks cs

/-- Read a string of one line up to its quote; the text so far has its last character first. -/
def readLine (quote : Char) : Nat → List Char → List Char → Option (List Char × List Char)
  | 0, _, _ => none
  | fuel + 1, text, cs =>
    match cs with
    | [] => none
    | c :: rest =>
      if c == quote then some (text.reverse, rest)
      else if c == '\\' && quote == '"' then do
        let (c, rest) ← readEscape rest
        readLine quote fuel (c :: text) rest
      else if isPlain c then readLine quote fuel (c :: text) rest
      else none

/-- Read a string of several lines up to its three quotes, in front of which two more may stand. -/
def readParagraph (quote : Char) : Nat → List Char → List Char → Option (List Char × List Char)
  | 0, _, _ => none
  | fuel + 1, text, cs =>
    match cs with
    | [] => none
    | c :: rest =>
      if c == quote then
        let quotes := (c :: rest).takeWhile (· == quote)
        if quotes.length < 3 then readParagraph quote fuel (c :: text) rest
        else if 5 < quotes.length then none
        else some (text.reverse ++ quotes.drop 3, (c :: rest).drop quotes.length)
      else if c == '\\' && quote == '"' then
        if (afterBreak? (skipBlanks rest)).isSome then
          readParagraph quote fuel text (skipJoint fuel rest)
        else do
          let (c, rest) ← readEscape rest
          readParagraph quote fuel (c :: text) rest
      else
        match afterBreak? (c :: rest) with
        | some rest => readParagraph quote fuel ('\n' :: text) rest
        | none => if isPlain c then readParagraph quote fuel (c :: text) rest else none

/-- Read a string in any of its forms.  A line break behind the first three quotes does not
count. -/
def readString (cs : List Char) : Option (String × List Char) :=
  let paragraph (quote : Char) (rest : List Char) : Option (List Char × List Char) :=
    readParagraph quote (rest.length + 1) [] ((afterBreak? rest).getD rest)
  let answer := match cs with
    | '"' :: '"' :: '"' :: rest => paragraph '"' rest
    | '\x27' :: '\x27' :: '\x27' :: rest => paragraph '\x27' rest
    | '"' :: rest => readLine '"' (rest.length + 1) [] rest
    | '\x27' :: rest => readLine '\x27' (rest.length + 1) [] rest
    | _ => none
  answer.map fun (text, rest) => (String.ofList text, rest)

/-! ## Keys -/

/-- The characters of a key without quotes. -/
def isKeyChar (c : Char) : Bool := c.isAlphanum || c == '_' || c == '-'

/-- One part of a key. -/
def readKeyPart (cs : List Char) : Option (String × List Char) :=
  match cs with
  | '"' :: rest => (readLine '"' (rest.length + 1) [] rest).map fun (t, r) => (String.ofList t, r)
  | '\x27' :: rest =>
    (readLine '\x27' (rest.length + 1) [] rest).map fun (t, r) => (String.ofList t, r)
  | cs =>
    let part := cs.takeWhile isKeyChar
    if part.isEmpty then none else some (String.ofList part, cs.dropWhile isKeyChar)

/-- The parts of a key, with blanks around them. -/
def readKey : Nat → List Char → Option (List String × List Char)
  | 0, _ => none
  | fuel + 1, cs => do
    let (part, rest) ← readKeyPart (skipBlanks cs)
    match skipBlanks rest with
    | '.' :: rest =>
      let (parts, rest) ← readKey fuel rest
      return (part :: parts, rest)
    | rest => return ([part], rest)

end TagTemplates.Toml
