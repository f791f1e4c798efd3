import TagTemplates.Json.Basic

/-!
# Reading JSON text

`Json.read?` reads one value with white space around it.  Nesting is limited: a value that lies in
`Json.maxDepth` arrays or objects is refused, and the reader recurses on the depth that is left.
Loops over the items of one array or object are bounded by the length of the text.

Numbers follow the two classes of data: an integer that fits in a signed word is whole, everything
else is fractional and is scaled from its leading digits (`Binary64.ofParts`).
-/

namespace TagTemplates.Json

/-- The number of arrays and objects that may be open at once, plus one. -/
def maxDepth : Nat := 128

def isJsonSpace (c : Char) : Bool := c == ' ' || c == '\t' || c == '\n' || c == '\r'

def skipSpace (cs : List Char) : List Char := cs.dropWhile isJsonSpace

/-! ## Numbers -/

/-- The digits that fit in a 64-bit word, and the number of digits left out. -/
def leadingDigits (start : Nat) : List Char → Nat × Nat
  | [] => (start, 0)
  | c :: cs =>
    let next := 10 * start + (c.toNat - '0'.toNat)
    if next < Number.wordCount then leadingDigits next cs else (start, cs.length + 1)

/-- The size from which on an exponent is not looked at any more. -/
def exponentLimit : Nat := 2147483648

/-- The exponent part after its letter: `none` when it has no digits. -/
def readExponent (cs : List Char) : Option (Int × List Char) :=
  let (negative, rest) :=
    match cs with
    | '-' :: rest => (true, rest)
    | '+' :: rest => (false, rest)
    | rest => (false, rest)
  let digits := rest.takeWhile Char.isDigit
  if digits.isEmpty then none
  else
    let value := Text.digitsValue digits
    some (if negative then -value else value, rest.dropWhile Char.isDigit)

/-- Read a number after its sign. -/
def readUnsigned (negative : Bool) (cs : List Char) : Option (Number × List Char) :=
  let whole := cs.takeWhile Char.isDigit
  let afterWhole := cs.dropWhile Char.isDigit
  let finish (word : Nat) (scale : Int) (rest : List Char) : Option (Number × List Char) :=
    let scaled (exponent : Int) : Option Number :=
      (Number.Binary64.ofParts negative (UInt64.ofNat word) (scale + exponent)).map .fractional
    match rest with
    | c :: more =>
      if c == 'e' || c == 'E' then do
        let (exponent, rest) ← readExponent more
        if exponentLimit ≤ exponent.natAbs then
          if word ≠ 0 ∧ 0 < exponent then none
          else some (.fractional (Number.Binary64.ofDecimal negative 0 0), rest)
        else return (← scaled exponent, rest)
      else (scaled 0).map (·, rest)
    | [] => (scaled 0).map (·, [])
  if whole.isEmpty || (1 < whole.length && whole.head? == some '0') then none
  else
    let (word, left) := leadingDigits 0 whole
    match afterWhole with
    | '.' :: rest =>
      let places := rest.takeWhile Char.isDigit
      if places.isEmpty then none
      else
        let (word, leftPlaces) := leadingDigits word places
        finish word ((left : Int) - ((places.length - leftPlaces : Nat) : Int))
          (rest.dropWhile Char.isDigit)
    | c :: _ =>
      if c == 'e' || c == 'E' || 0 < left then finish word left afterWhole
      else integer word afterWhole
    | [] => if 0 < left then finish word left [] else integer word []
where
  /-- An integer without point or exponent that fits in an unsigned word. -/
  integer (word : Nat) (rest : List Char) : Option (Number × List Char) :=
    if negative then
      if word ≠ 0 ∧ word ≤ Number.signedLimit then some (.whole (-word), rest)
      else some (.fractional (Number.Binary64.ofFloat (-(UInt64.ofNat word).toFloat)), rest)
    else if word < Number.signedLimit then some (.whole word, rest)
    else some (.fractional (Number.Binary64.ofFloat (UInt64.ofNat word).toFloat), rest)

def readNumber (cs : List Char) : Option (Number × List Char) :=
  match cs with
  | '-' :: rest => readUnsigned true rest
  | rest => readUnsigned false rest

/-! ## Strings -/

def hexValue? (c : Char) : Option Nat :=
  if c.isDigit then some (c.toNat - '0'.toNat)
  else if 'a' ≤ c ∧ c ≤ 'f' then some (c.toNat - 'a'.toNat + 10)
  else if 'A' ≤ c ∧ c ≤ 'F' then some (c.toNat - 'A'.toNat + 10)
  else none

/-- Four hexadecimal digits. -/
def readHex4 : List Char → Option (Nat × List Char)
  | a :: b :: c :: d :: rest => do
    let a ← hexValue? a
    let b ← hexValue? b
    let c ← hexValue? c
    let d ← hexValue? d
    return (((a * 16 + b) * 16 + c) * 16 + d, rest)
  | _ => none

/-- The character of an escape, after its backslash.  A surrogate counts only as one of a pair. -/
def readEscape : List Char → Option (Char × List Char)
  | '"' :: rest => some ('"', rest)
  | '\\' :: rest => some ('\\', rest)
  | '/' :: rest => some ('/', rest)
  | 'b' :: rest => some (Char.ofNat 8, rest)
  | 'f' :: rest => some (Char.ofNat 12, rest)
  | 'n' :: rest => some ('\n', rest)
  | 'r' :: rest => some ('\r', rest)
  | 't' :: rest => some ('\t', rest)
  | 'u' :: rest => do
    let (unit, rest) ← readHex4 rest
    if 0xDC00 ≤ unit ∧ unit ≤ 0xDFFF then none
    else if 0xD800 ≤ unit ∧ unit ≤ 0xDBFF then
      match rest with
      | '\\' :: 'u' :: rest => do
        let (low, rest) ← readHex4 rest
        if 0xDC00 ≤ low ∧ low ≤ 0xDFFF then
          return (Char.ofNat (0x10000 + (unit - 0xD800) * 0x400 + (low - 0xDC00)), rest)
        else none
      | _ => none
    else return (Char.ofNat unit, rest)
  | _ => none

/-- The characters of a string up to its closing quote. -/
def readStringBody : Nat → List Char → List Char → Option (String × List Char)
  | 0, _, _ => none
  | fuel + 1, done, cs =>
    match cs with
    | [] => none
    | '"' :: rest => some (String.ofList done.reverse, rest)
    | '\\' :: rest => do
      let (c, rest) ← readEscape rest
      readStringBody fuel (c :: done) rest
    | c :: rest => if c.toNat < 0x20 then none else readStringBody fuel (c :: done) rest

def readString (cs : List Char) : Option (String × List Char) :=
  readStringBody (cs.length + 1) [] cs

/-! ## Values -/

/-- The items of an array, after its opening bracket and any white space. -/
def readItems (item : List Char → Option (Json × List Char)) :
    Nat → List Json → List Char → Option (List Json × List Char)
  | 0, _, _ => none
  | fuel + 1, done, cs => do
    let (value, rest) ← item cs
    match skipSpace rest with
    | ',' :: rest => readItems item fuel (value :: done) (skipSpace rest)
    | ']' :: rest => return ((value :: done).reverse, rest)
    | _ => none

/-- The entries of an object, after its opening brace and any white space. -/
def readEntries (item : List Char → Option (Json × List Char)) :
    Nat → List (String × Json) → List Char → Option (List (String × Json) × List Char)
  | 0, _, _ => none
  | fuel + 1, done, cs =>
    match cs with
    | '"' :: rest => do
      let (key, rest) ← readString rest
      match skipSpace rest with
      | ':' :: rest => do
        let (value, rest) ← item (skipSpace rest)
        match skipSpace rest with
        | ',' :: rest => readEntries item fuel ((key, value) :: done) (skipSpace rest)
        | '}' :: rest => return (((key, value) :: done).reverse, rest)
        | _ => none
      | _ => none
    | _ => none

/-- Read one value, without white space before it. -/
def readValue : Nat → List Char → Option (Json × List Char)
  | 0, _ => none
  | depth + 1, cs =>
    match cs with
    | 'n' :: 'u' :: 'l' :: 'l' :: rest => some (null, rest)
    | 't' :: 'r' :: 'u' :: 'e' :: rest => some (bool true, rest)
    | 'f' :: 'a' :: 'l' :: 's' :: 'e' :: rest => some (bool false, rest)
    | '"' :: rest => (readString rest).map fun (s, rest) => (string s, rest)
    | '[' :: rest =>
      if depth = 0 then none
      else match skipSpace rest with
        | ']' :: rest => some (array [], rest)
        | rest => (readItems (readValue depth) (rest.length + 1) [] rest).map
            fun (items, rest) => (array items, rest)
    | '{' :: rest =>
      if depth = 0 then none
      else match skipSpace rest with
        | '}' :: rest => some (object [], rest)
        | rest => (readEntries (readValue depth) (rest.length + 1) [] rest).map
            fun (entries, rest) => (ofEntries entries, rest)
    | cs => (readNumber cs).map fun (n, rest) => (number n, rest)

/-- Read a whole text as one value. -/
def read? (text : String) : Option Json :=
  match readValue maxDepth (skipSpace text.toList) with
  | some (value, rest) => if (skipSpace rest).isEmpty then some value else none
  | none => none

end TagTemplates.Json
