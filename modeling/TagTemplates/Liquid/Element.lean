import TagTemplates.Liquid.Expression

/-!
# The elements of a template

A template is a sequence of elements: text, outputs between double braces, tags between a brace
and a percent sign, and characters that begin a marker which is not well formed.  A marker with a
hyphen takes the white space beside it with it.  Every element keeps the text it was read from,
because a raw block prints that text.
-/

namespace TagTemplates.Liquid

/-- A word of a tag. -/
inductive Token where
  | range (first last : Expression)
  /-- An expression with its filters, and its text. -/
  | calls (calls : Calls) (source : String)
  | symbol (text : String)

namespace Token

/-- The text of a word, by which key words are recognised. -/
def text : Token → String
  | range _ _ => ""
  | calls _ source => source
  | symbol text => text

/-- The expression that a word is when no filter follows it. -/
def value? : Token → Option Expression
  | calls ⟨entry, []⟩ _ => some entry
  | _ => none

/-- The name that a word is. -/
def name? : Token → Option String
  | calls ⟨.lookup root [], []⟩ _ => some root
  | _ => none

end Token

/-- An element of a template. -/
inductive Element where
  | text (source : List Char)
  | output (calls : Calls) (source : List Char)
  | tag (name : String) (words : List Token) (source : List Char)
  /-- A character that no other element begins with. -/
  | stray (source : Char)

/-- The text an element was read from. -/
def Element.source : Element → List Char
  | text source => source
  | output _ source => source
  | tag _ _ source => source
  | stray c => [c]

/-! ## Markers -/

/-- Read an opening marker: white space and the marker with a hyphen, or the bare marker. -/
def readOpening (marker : String) (cs : List Char) : Option (List Char) :=
  readWord (marker ++ "-") (skipGap cs) <|> readWord marker cs

/-- Read a closing marker: the marker with a hyphen and white space, or the bare marker. -/
def readClosing (marker : String) (cs : List Char) : Option (List Char) :=
  (readWord ("-" ++ marker) cs).map skipGap <|> readWord marker cs

def outputOpening : String := "\x7b\x7b"
def outputClosing : String := "\x7d\x7d"
def tagOpening : String := "\x7b%"
def tagClosing : String := "%\x7d"

/-! ## Outputs and tags -/

/-- What was read between two ends of a text. -/
def readBetween (before after : List Char) : List Char := before.take (before.length - after.length)

/-- Read an output. -/
def readOutput (cs : List Char) : Option (Element × List Char) := do
  let rest ← readOpening outputOpening cs
  let (calls, rest) ← readCalls (skipGap rest)
  let rest ← readClosing outputClosing (skipGap rest)
  return (.output calls (readBetween cs rest), rest)

/-- The symbols of tags; a longer one is tried before its own beginning. -/
def symbols : List String := ["==", "!=", "<>", "<=", ">=", ">", "<", ",", ":", "="]

/-- Read a symbol. -/
def readSymbol (cs : List Char) : Option (Token × List Char) :=
  symbols.findSome? fun s => (readWord s cs).map fun rest => (.symbol s, rest)

/-- Read a word of a tag. -/
def readToken (cs : List Char) : Option (Token × List Char) :=
  let range := (readRange cs).map fun ((first, last), rest) => (Token.range first last, rest)
  let calls := (readCalls cs).map fun (calls, rest) =>
    (Token.calls calls (String.ofList (readBetween cs rest)), rest)
  range <|> calls <|> readSymbol cs

/-- Read the words of a tag. -/
def readTokens : Nat → List Char → List Token × List Char
  | 0, cs => ([], cs)
  | fuel + 1, cs =>
    match readToken (skipGap cs) with
    | some (token, rest) =>
      let (more, rest) := readTokens fuel rest
      (token :: more, rest)
    | none => ([], cs)

/-- Read a tag. -/
def readTag (cs : List Char) : Option (Element × List Char) := do
  let rest ← readOpening tagOpening cs
  let (name, rest) ← readName (skipGap rest)
  let (words, rest) := readTokens rest.length rest
  let rest ← readClosing tagClosing (skipGap rest)
  return (.tag name words (readBetween cs rest), rest)

/-- Whether an opening marker begins here. -/
def opensMarker (cs : List Char) : Bool :=
  (readOpening outputOpening cs <|> readOpening tagOpening cs).isSome

/-- The text before the next opening marker, and the rest. -/
def plainText : List Char → List Char × List Char
  | [] => ([], [])
  | c :: cs =>
    if opensMarker (c :: cs) then ([], c :: cs)
    else
      let (text, rest) := plainText cs
      (c :: text, rest)

/-! ## Templates -/

/-- Read the elements of a text, at most as many as its characters. -/
def elementsWithin : Nat → List Char → List Element
  | 0, _ => []
  | _, [] => []
  | fuel + 1, c :: cs =>
    match readOutput (c :: cs) <|> readTag (c :: cs) with
    | some (element, rest) => element :: elementsWithin fuel rest
    | none =>
      match plainText (c :: cs) with
      | ([], _) => .stray c :: elementsWithin fuel cs
      | (text, rest) => .text text :: elementsWithin fuel rest

/-- The elements of a template. -/
def elements (cs : List Char) : List Element := elementsWithin cs.length cs

end TagTemplates.Liquid
