import TagTemplates.Yaml.ScalarText

/-!
# YAML tokens

`Token.read?` cuts a text into tokens.  Besides the marks that are written there are tokens that
only the layout shows: the beginnings and ends of block collections, and the keys of mappings that
are written without a question mark.

Such a key is known only when its colon is met.  Until then it is a `Candidate`, which remembers
how many tokens stood before it, and its tokens are put in there.  There is one candidate at most
for each level of flow collections.
-/

namespace TagTemplates.Yaml

/-- The parts that a YAML text is made of. -/
inductive Token where
  | version (major minor : Nat)
  | shorthand (name image : String)
  | documentStart
  | documentEnd
  | blockSequence
  | blockMapping
  | blockEnd
  | flowSequence
  | flowSequenceEnd
  | flowMapping
  | flowMappingEnd
  | blockItem
  | flowSeparator
  | key
  | value
  | alias (name : String)
  | anchor (name : String)
  | tag (handle suffix : String)
  | scalar (text : String) (isPlain : Bool)
  deriving DecidableEq, Repr

namespace Token

/-- A place where the key of a mapping may begin. -/
structure Candidate where
  /-- The number of tokens before it. -/
  position : Nat
  place : Place
  /-- Whether nothing but a key may stand there. -/
  isRequired : Bool

/-- What has been read, and what the layout allows to follow. -/
structure Scan where
  rest : List Char
  place : Place := {}
  tokens : Array Token := #[]
  /-- The column of the innermost block collection, or -1. -/
  indent : Int := -1
  /-- The columns of the block collections around it. -/
  outer : List Int := []
  /-- Whether a key may begin here. -/
  allowsKey : Bool := true
  /-- The candidate of the innermost level. -/
  candidate : Option Candidate := none
  /-- The candidates of the levels around it. -/
  above : List (Option Candidate) := []

namespace Scan

/-- Whether the text stands in a flow collection. -/
def inFlow (s : Scan) : Bool := !s.above.isEmpty

/-- Go on behind the text that has been read. -/
def moveTo (s : Scan) (rest : List Char) : Scan :=
  { s with
    rest := rest
    place := s.place.after (s.rest.take (s.rest.length - rest.length)) }

def skip (s : Scan) (count : Nat) : Scan := s.moveTo (s.rest.drop count)

def push (s : Scan) (token : Token) : Scan := { s with tokens := s.tokens.push token }

/-! ## Block collections -/

/-- End the block collections that are indented further than a column. -/
def closeBlocks (column : Int) :
    Int → List Int → Array Token → Int × List Int × Array Token
  | indent, [], tokens => (indent, [], tokens)
  | indent, next :: outer, tokens =>
    if column < indent then closeBlocks column next outer (tokens.push .blockEnd)
    else (indent, next :: outer, tokens)

def closeTo (s : Scan) (column : Int) : Scan :=
  if s.inFlow then s
  else
    let (indent, outer, tokens) := closeBlocks column s.indent s.outer s.tokens
    { s with indent := indent, outer := outer, tokens := tokens }

/-- Begin a block collection at a column that is indented further than the current one.  Its token
stands behind the given number of tokens. -/
def openBlock (s : Scan) (column position : Nat) (token : Token) : Scan :=
  if s.inFlow || (column : Int) ≤ s.indent then s
  else
    { s with
      indent := column
      outer := s.indent :: s.outer
      tokens := s.tokens.insertIdxIfInBounds position token }

/-! ## Keys -/

/-- Give up a candidate; `none` when it is required. -/
def dropCandidate (s : Scan) : Option Scan :=
  if s.candidate.any (·.isRequired) then none else some { s with candidate := none }

/-- Whether a candidate stands too far back: on another line, or more than 1024 characters. -/
def isStale (s : Scan) (candidate : Candidate) : Bool :=
  candidate.place.line < s.place.line || candidate.place.index + 1024 < s.place.index

/-- Give up the candidates that stand too far back. -/
def dropStale (s : Scan) : Option Scan :=
  let isBad (c : Option Candidate) : Bool := c.any fun c => c.isRequired && s.isStale c
  let fresh (c : Option Candidate) : Option Candidate := c.filter (!s.isStale ·)
  if isBad s.candidate || s.above.any isBad then none
  else some { s with candidate := fresh s.candidate, above := s.above.map fresh }

/-- Note that a key may begin here. -/
def noteCandidate (s : Scan) : Option Scan := do
  if !s.allowsKey then return s
  let isRequired := !s.inFlow && s.indent == s.place.column
  let next ← s.dropCandidate
  return { next with candidate := some ⟨s.tokens.size, s.place, isRequired⟩ }

def allow (s : Scan) (allowsKey : Bool) : Scan := { s with allowsKey := allowsKey }

/-! ## Between tokens -/

/-- Skip blanks, comments and line breaks.  A tab does not count as a blank where a key may
begin.  Behind a line break of a block collection one may. -/
def skipGap (inFlow : Bool) : Bool → List Char → Bool × List Char
  | allowsKey, [] => (allowsKey, [])
  | allowsKey, c :: rest =>
    if c == ' ' || (c == '\t' && (inFlow || !allowsKey)) then skipGap inFlow allowsKey rest
    else if isBreak c then skipGap inFlow (allowsKey || !inFlow) rest
    else (allowsKey, c :: rest)

/-- Skip what stands between two tokens.  The bound is the length of the text. -/
def skipBetween (inFlow : Bool) : Nat → Bool → List Char → Bool × List Char
  | 0, allowsKey, cs => (allowsKey, cs)
  | fuel + 1, allowsKey, cs =>
    match skipGap inFlow allowsKey cs with
    | (allowsKey, '#' :: rest) =>
      skipBetween inFlow fuel allowsKey (rest.dropWhile (!isBreak ·))
    | answer => answer

/-! ## Directives and properties -/

/-- A number of at most nine digits. -/
def readNumber (cs : List Char) : Option (Nat × List Char) :=
  let digits := cs.takeWhile Char.isDigit
  if digits.isEmpty || 9 < digits.length then none
  else some (Text.digitsValue digits, cs.dropWhile Char.isDigit)

/-- A handle: word characters behind an exclamation mark, and perhaps another one. -/
def readHandle : List Char → Option (List Char × List Char)
  | '!' :: rest =>
    let word := rest.takeWhile isWordChar
    match rest.dropWhile isWordChar with
    | '!' :: rest => some ('!' :: word ++ ['!'], rest)
    | rest => some ('!' :: word, rest)
  | _ => none

/-- Whether a text has the form of a handle with two exclamation marks. -/
def isFullHandle (handle : List Char) : Bool := 1 < handle.length && handle.getLast? == some '!'

/-- The characters of a tag. -/
def isTagChar (isFull : Bool) (c : Char) : Bool :=
  isWordChar c || ";/?:@&=+$.!~*'()%".toList.contains c ||
    (isFull && ",[]".toList.contains c)

/-- A byte that is written as a percent sign and two digits. -/
def readByte : List Char → Option (UInt8 × List Char)
  | '%' :: a :: b :: rest => do
    return (UInt8.ofNat ((← Json.hexValue? a) * 16 + (← Json.hexValue? b)), rest)
  | _ => none

/-- The bytes of a tag that are written as escapes. -/
def readBytes : Nat → ByteArray → List Char → Option (ByteArray × List Char)
  | 0, bytes, cs => some (bytes, cs)
  | fuel + 1, bytes, cs =>
    if cs.head? == some '%' then do
      let (byte, rest) ← readByte cs
      readBytes fuel (bytes.push byte) rest
    else some (bytes, cs)

/-- The text of a tag, with its escapes replaced. -/
def readTagText (isFull : Bool) : Nat → List Char → List Char → Option (List Char × List Char)
  | 0, text, cs => some (text, cs)
  | fuel + 1, text, cs =>
    match cs with
    | '%' :: _ => do
      let (bytes, rest) ← readBytes cs.length .empty cs
      readTagText isFull fuel (text ++ (← String.fromUTF8? bytes).toList) rest
    | c :: rest =>
      if isTagChar isFull c then readTagText isFull fuel (text ++ [c]) rest else some (text, cs)
    | [] => some (text, [])

/-- A tag in one of its forms: in angle brackets, behind a handle, or on its own. -/
def readTag (cs : List Char) : Option (Token × List Char) := do
  let make (handle suffix : List Char) : Token :=
    .tag (String.ofList handle) (String.ofList suffix)
  match cs with
  | '!' :: '<' :: rest =>
    let (text, rest) ← readTagText true rest.length [] rest
    if text.isEmpty || rest.head? != some '>' then none
    return (make [] text, rest.drop 1)
  | _ =>
    let (handle, rest) ← readHandle cs
    if isFullHandle handle then
      let (text, rest) ← readTagText false rest.length [] rest
      if text.isEmpty then none
      return (make handle text, rest)
    let (text, rest) ← readTagText false rest.length (handle.drop 1) rest
    return (if text.isEmpty then make [] ['!'] else make ['!'] text, rest)

/-- The value of a directive that declares the version. -/
def readVersion (cs : List Char) : Option (Token × List Char) := do
  let (major, rest) ← readNumber (cs.dropWhile Text.isBlank)
  if rest.head? != some '.' then none
  let (minor, rest) ← readNumber (rest.drop 1)
  return (.version major minor, rest)

/-- The value of a directive that declares a handle. -/
def readHandleValue (cs : List Char) : Option (Token × List Char) := do
  let (handle, rest) ← readHandle (cs.dropWhile Text.isBlank)
  if !(handle == ['!'] || isFullHandle handle) then none
  if !Text.beginsIn Text.isBlank rest then none
  let rest := rest.dropWhile Text.isBlank
  let (text, rest) ← readTagText true rest.length [] rest
  if text.isEmpty || !endsWord rest then none
  return (.shorthand (String.ofList handle) (String.ofList text), rest)

/-- A directive behind its percent sign. -/
def readDirective (cs : List Char) : Option (Token × List Char) := do
  let name := String.ofList (cs.takeWhile isWordChar)
  let rest := cs.dropWhile isWordChar
  if !endsWord rest then none
  let (token, rest) ←
    if name == "YAML" then readVersion rest
    else if name == "TAG" then readHandleValue rest
    else none
  let rest := skipToBreak rest
  if rest.isEmpty || Text.beginsIn isBreak rest then return (token, (takeBreak rest).2) else none

/-! ## Tokens -/

/-- A mark at the beginning of a line that ends everything before it. -/
def takeMark (s : Scan) (token : Token) (rest : List Char) : Option Scan := do
  let s ← (s.closeTo (-1)).dropCandidate
  return ((s.moveTo rest).push token).allow false

/-- The beginning of a flow collection. -/
def openFlow (s : Scan) (token : Token) : Option Scan := do
  let s ← s.noteCandidate
  let s := { s with candidate := none, above := s.candidate :: s.above }
  return ((s.skip 1).push token).allow true

/-- The end of a flow collection. -/
def closeFlow (s : Scan) (token : Token) : Option Scan := do
  let s ← s.dropCandidate
  let s := match s.above with
    | [] => s
    | candidate :: above => { s with candidate := candidate, above := above }
  return ((s.skip 1).push token).allow false

/-- An item of a block sequence or a key with a question mark. -/
def takeIndicator (s : Scan) (collection token : Token) (allowsKey : Bool) : Option Scan := do
  if !s.inFlow && !s.allowsKey then none
  let s ← (s.openBlock s.place.column s.tokens.size collection).dropCandidate
  return ((s.skip 1).push token).allow allowsKey

/-- A colon in front of a value: the candidate becomes a key, or else the key had a question
mark. -/
def takeValue (s : Scan) : Option Scan := do
  match s.candidate with
  | some candidate =>
    let position := candidate.position
    let s := { s with tokens := s.tokens.insertIdxIfInBounds position .key, candidate := none }
    let s := s.openBlock candidate.place.column position .blockMapping
    return ((s.skip 1).push .value).allow false
  | none =>
    if !s.inFlow && !s.allowsKey then none
    let s := s.openBlock s.place.column s.tokens.size .blockMapping
    return ((s.skip 1).push .value).allow (!s.inFlow)

/-- A token that may be the beginning of a key. -/
def takeWord (s : Scan) (token : Token) (rest : List Char) : Option Scan := do
  let s ← s.noteCandidate
  return ((s.moveTo rest).push token).allow false

/-- The name of an anchor or an alias. -/
def takeAnchor (s : Scan) (make : String → Token) : Option Scan := do
  let rest := s.rest.drop 1
  let name := rest.takeWhile isWordChar
  let rest := rest.dropWhile isWordChar
  if name.isEmpty || !(endsWord rest || Text.beginsIn ("?:,]\x7d%@\x60".toList.contains ·) rest) then
    none
  s.takeWord (make (String.ofList name)) rest

def takeTag (s : Scan) : Option Scan := do
  let (token, rest) ← readTag s.rest
  if !(endsWord rest || (s.inFlow && rest.head? == some ',')) then none
  s.takeWord token rest

def takeBlock (s : Scan) (isLiteral : Bool) : Option Scan := do
  let (text, rest) ← readBlock isLiteral s.indent (s.rest.drop 1)
  let s ← s.dropCandidate
  return ((s.moveTo rest).push (.scalar (String.ofList text) false)).allow true

def takeQuoted (s : Scan) (quote : Char) : Option Scan := do
  let (text, rest) ← readQuoted quote s.rest.length [] false (s.rest.drop 1)
  s.takeWord (.scalar (String.ofList text) false) rest

def takePlain (s : Scan) : Option Scan := do
  let (text, isBroken, rest) ←
    readPlain s.inFlow (s.indent + 1).toNat s.rest.length [] {} s.rest
  let next ← s.takeWord (.scalar (String.ofList text) true) rest
  return next.allow isBroken

/-- Whether a plain scalar begins with a character, given the text behind it. -/
def beginsPlain (inFlow : Bool) (c : Char) (rest : List Char) : Bool :=
  if c == '-' then !Text.beginsIn Text.isBlank rest
  else if c == '?' || c == ':' then !inFlow && !endsWord rest
  else !",[]\x7b\x7d#&*!|>'\"%@\x60".toList.contains c && !Text.isBlank c

/-- Read one token, in front of which nothing has to be skipped. -/
def takeToken (s : Scan) : Option Scan :=
  match s.rest with
  | [] => none
  | c :: rest =>
    if s.place.column == 0 && c == '%' then do
      let (token, after) ← readDirective rest
      s.takeMark token after
    else if s.place.column == 0 && atDocumentMark s.rest then
      s.takeMark (if c == '-' then .documentStart else .documentEnd) (s.rest.drop 3)
    else if c == '[' then s.openFlow .flowSequence
    else if c == '\x7b' then s.openFlow .flowMapping
    else if c == ']' then s.closeFlow .flowSequenceEnd
    else if c == '\x7d' then s.closeFlow .flowMappingEnd
    else if c == ',' then do
      let s ← s.dropCandidate
      return ((s.skip 1).push .flowSeparator).allow true
    else if c == '-' && endsWord rest then s.takeIndicator .blockSequence .blockItem true
    else if c == '?' && (s.inFlow || endsWord rest) then
      s.takeIndicator .blockMapping .key (!s.inFlow)
    else if c == ':' && (s.inFlow || endsWord rest) then s.takeValue
    else if c == '*' then s.takeAnchor .alias
    else if c == '&' then s.takeAnchor .anchor
    else if c == '!' then s.takeTag
    else if c == '|' && !s.inFlow then s.takeBlock true
    else if c == '>' && !s.inFlow then s.takeBlock false
    else if c == '\x27' || c == '"' then s.takeQuoted c
    else if beginsPlain s.inFlow c rest then s.takePlain
    else none

/-- The end of the text ends all block collections. -/
def finish (s : Scan) : Option (Array Token) := (s.closeTo (-1)).dropCandidate.map (·.tokens)

/-- Read all tokens.  The bound is more than the length of the text. -/
def run : Nat → Scan → Option (Array Token)
  | 0, _ => none
  | fuel + 1, s => do
    let (allowsKey, rest) := skipBetween s.inFlow s.rest.length s.allowsKey s.rest
    let s ← ((s.moveTo rest).allow allowsKey).dropStale
    let s := s.closeTo s.place.column
    if s.rest.isEmpty then s.finish else run fuel (← s.takeToken)

end Scan

/-- The tokens of a text. -/
def read? (text : String) : Option (List Token) := do
  let cs := text.toList
  let mark := fun (c : Char) => c.toNat == 0xFEFF
  let cs := if Text.beginsIn mark cs then cs.drop 1 else cs
  if cs.all isAllowed then (Scan.run (cs.length + 1) { rest := cs }).map (·.toList) else none

end Token

end TagTemplates.Yaml
