import TagTemplates.Value.Basic

/-!
# Expressions of the template language

An expression is a literal or a variable, a name followed by indices.  Reading one is greedy and
never takes a decision back: a literal word is tried before a name, so `nilly` reads as the literal
`nil` and leaves `ly` behind.

* `readValue` reads one expression from the front of a text.
* `readCalls` reads an expression with the filters that follow it, as they are written; which
  filters exist is decided later.
-/

namespace TagTemplates.Liquid

/-- An expression.  The indices of a variable are expressions themselves; a name after a dot is the
literal text of that name. -/
inductive Expression where
  | literal (value : Value)
  | lookup (root : String) (indices : List Expression)
  deriving Inhabited

/-- An argument of a filter, by position or by name. -/
structure Argument where
  name : Option String
  value : Expression

/-- A filter as it is written. -/
structure Call where
  name : String
  arguments : List Argument

/-- An expression and the filters written behind it. -/
structure Calls where
  entry : Expression
  filters : List Call

/-! ## Characters -/

/-- The white space that may stand between the words of the template language. -/
def isGap (c : Char) : Bool := c == ' ' || c == '\n' || c == '\r'

/-- Skip white space. -/
def skipGap (cs : List Char) : List Char := cs.dropWhile isGap

/-- Whether a hyphen here belongs to the closing marker behind it. -/
def closesAfterHyphen : List Char → Bool
  | '}' :: '}' :: _ => true
  | '%' :: '}' :: _ => true
  | _ => false

/-- A character that a name begins with, given what follows it. -/
def startsName (c : Char) (rest : List Char) : Bool :=
  c.isAlpha || c == '_' || (c == '-' && !closesAfterHyphen rest)

/-- A character that a name goes on with, given what follows it. -/
def continuesName (c : Char) (rest : List Char) : Bool := startsName c rest || c.isDigit

/-- The characters that continue a name, and the rest. -/
def nameTail : List Char → List Char × List Char
  | [] => ([], [])
  | c :: cs =>
    if continuesName c cs then
      let (tail, rest) := nameTail cs
      (c :: tail, rest)
    else ([], c :: cs)

/-- Read a name. -/
def readName : List Char → Option (String × List Char)
  | [] => none
  | c :: cs =>
    if startsName c cs then
      let (tail, rest) := nameTail cs
      some (String.ofList (c :: tail), rest)
    else none

/-! ## Literals -/

/-- Read a word from the front. -/
def readWord (word : String) (cs : List Char) : Option (List Char) :=
  if word.toList.isPrefixOf cs then some (cs.drop word.length) else none

/-- Read a text in quotes; nothing is escaped inside. -/
def readText : List Char → Option (Value × List Char)
  | q :: cs =>
    if q == '"' || q == '\x27' then
      match Text.cutAt? q cs with
      | some (inside, rest) => some (.ofText (String.ofList inside), rest)
      | none => none
    else none
  | [] => none

/-- Read a number with an optional sign: with a point between digits it is fractional. -/
def readNumber (cs : List Char) : Option (Value × List Char) :=
  let (sign, unsigned) :=
    match cs with
    | '-' :: rest => (['-'], rest)
    | '+' :: rest => (['+'], rest)
    | rest => ([], rest)
  let whole := unsigned.takeWhile Char.isDigit
  if whole.isEmpty then none
  else
    let afterWhole := unsigned.dropWhile Char.isDigit
    let asWhole : Option (Value × List Char) :=
      (Text.readInt? (sign ++ whole)).map fun i => (.scalar (.whole (Number.wrap i)), afterWhole)
    match afterWhole with
    | '.' :: afterPoint =>
      let places := afterPoint.takeWhile Char.isDigit
      if places.isEmpty then asWhole
      else
        (Number.Binary64.read? (sign ++ whole ++ '.' :: places)).map fun x =>
          (.scalar (.fractional x), afterPoint.dropWhile Char.isDigit)
    | _ => asWhole

/-- The literal words that are tried before quoted texts and numbers. -/
def earlyWords : List (String × Value) :=
  [("nil", .nil), ("null", .nil), ("empty", .quality .empty), ("blank", .quality .blank)]

/-- The literal words that are tried after them. -/
def lateWords : List (String × Value) :=
  [("true", .scalar (.bool true)), ("false", .scalar (.bool false))]

/-- Read the first of the words that the text begins with. -/
def readWords (words : List (String × Value)) (cs : List Char) : Option (Value × List Char) :=
  words.findSome? fun (word, value) => (readWord word cs).map fun rest => (value, rest)

/-- Read a literal. -/
def readLiteral (cs : List Char) : Option (Value × List Char) :=
  readWords earlyWords cs <|> readText cs <|> readNumber cs <|> readWords lateWords cs

/-! ## Variables and values -/

mutual

/-- Read a literal or a variable, with a bound on the depth of what is read. -/
def readValueWithin : Nat → List Char → Option (Expression × List Char)
  | 0, _ => none
  | fuel + 1, cs =>
    match readLiteral cs with
    | some (value, rest) => some (.literal value, rest)
    | none =>
      match readName cs with
      | some (root, rest) =>
        let (indices, rest) := readIndicesWithin fuel rest
        some (.lookup root indices, rest)
      | none => none

/-- Read the indices of a variable: names after dots, values in brackets. -/
def readIndicesWithin : Nat → List Char → List Expression × List Char
  | 0, cs => ([], cs)
  | fuel + 1, cs =>
    match cs with
    | '.' :: afterDot =>
      match readName afterDot with
      | some (name, rest) =>
        let (more, rest) := readIndicesWithin fuel rest
        (.literal (.ofText name) :: more, rest)
      | none => ([], cs)
    | '[' :: afterBracket =>
      match readValueWithin fuel afterBracket with
      | some (index, ']' :: rest) =>
        let (more, rest) := readIndicesWithin fuel rest
        (index :: more, rest)
      | _ => ([], cs)
    | _ => ([], cs)

end

/-- Read a literal or a variable.  No text is deeper than it is long. -/
def readValue (cs : List Char) : Option (Expression × List Char) :=
  readValueWithin (cs.length + 1) cs

/-- Read a range, two values in parentheses with two dots between them. -/
def readRange (cs : List Char) : Option ((Expression × Expression) × List Char) := do
  let rest ← readWord "(" cs
  let (first, rest) ← readValue (skipGap rest)
  let rest ← readWord ".." (skipGap rest)
  let (last, rest) ← readValue (skipGap rest)
  let rest ← readWord ")" (skipGap rest)
  return ((first, last), rest)

/-! ## Filters -/

/-- Read an argument: a value, or a name, a colon and a value. -/
def readArgument (cs : List Char) : Option (Argument × List Char) :=
  let named : Option (Argument × List Char) := do
    let (name, rest) ← readName cs
    let rest ← readWord ":" (skipGap rest)
    let (value, rest) ← readValue (skipGap rest)
    return (⟨some name, value⟩, rest)
  named <|> (readValue cs).map fun (value, rest) => (⟨none, value⟩, rest)

/-- Read the arguments that follow a comma each. -/
def readMoreArguments : Nat → List Char → List Argument × List Char
  | 0, cs => ([], cs)
  | fuel + 1, cs =>
    match (readWord "," (skipGap cs)).bind fun rest => readArgument (skipGap rest) with
    | some (argument, rest) =>
      let (more, rest) := readMoreArguments fuel rest
      (argument :: more, rest)
    | none => ([], cs)

/-- Read the name and the arguments of a filter. -/
def readCall (cs : List Char) : Option (Call × List Char) := do
  let (name, rest) ← readName cs
  match (readWord ":" (skipGap rest)).bind fun rest => readArgument (skipGap rest) with
  | some (first, after) =>
    let (more, after) := readMoreArguments after.length after
    return (⟨name, first :: more⟩, after)
  | none => return (⟨name, []⟩, rest)

/-- Read the filters that follow a bar each. -/
def readFilters : Nat → List Char → List Call × List Char
  | 0, cs => ([], cs)
  | fuel + 1, cs =>
    match (readWord "|" (skipGap cs)).bind fun rest => readCall (skipGap rest) with
    | some (call, rest) =>
      let (more, rest) := readFilters fuel rest
      (call :: more, rest)
    | none => ([], cs)

/-- Read an expression with its filters. -/
def readCalls (cs : List Char) : Option (Calls × List Char) := do
  let (entry, rest) ← readValue cs
  let (filters, rest) := readFilters rest.length rest
  return (⟨entry, filters⟩, rest)

end TagTemplates.Liquid
