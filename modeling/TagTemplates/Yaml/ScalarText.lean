import TagTemplates.Json.Reader
import TagTemplates.Yaml.Line

/-!
# The texts of YAML scalars

How the text of a scalar is read in each of its styles: plain, between quotes, and as a block.  In
all of them the lines of a text are folded, except in literal blocks.

Every reader gives the text of the scalar and what stands behind it.  Loops over the lines of a
scalar are bounded by the length of the text.
-/

namespace TagTemplates.Yaml

/-! ## Plain scalars -/

/-- The characters of a plain scalar up to a blank or an indicator that ends it.  In a flow
collection a colon must not be followed by one of its brackets. -/
def plainRun (inFlow : Bool) : List Char → Option (List Char × List Char)
  | [] => some ([], [])
  | c :: rest =>
    if Text.isBlank c || isBreak c then some ([], c :: rest)
    else if inFlow && c == ':' && rest.head?.any (",?[]\x7b\x7d".toList.contains ·) then none
    else if c == ':' && endsWord rest then some ([], c :: rest)
    else if inFlow && ",[]\x7b\x7d".toList.contains c then some ([], c :: rest)
    else (plainRun inFlow rest).map fun (run, rest) => (c :: run, rest)

/-- Read a plain scalar, whose later lines have to be indented.  The answer also tells whether the
scalar was ended by a line break. -/
def readPlain (inFlow : Bool) (indent : Nat) :
    Nat → List Char → Gap → List Char → Option (List Char × Bool × List Char)
  | 0, text, gap, cs => some (text, gap.isBroken, cs)
  | fuel + 1, text, gap, cs =>
    if (gap.isBroken && gap.column == 0 && atDocumentMark cs) || cs.head? == some '#' then
      some (text, gap.isBroken, cs)
    else do
      let (run, rest) ← plainRun inFlow cs
      if run.isEmpty then return (text, gap.isBroken, cs)
      let text := text ++ gap.text ++ run
      if !(rest.isEmpty || Text.beginsIn (fun c => Text.isBlank c || isBreak c) rest) then
        return (text, false, rest)
      let (gap, rest) ← Gap.read indent {} rest
      if !inFlow && gap.isBroken && gap.column < indent then return (text, true, rest)
      readPlain inFlow indent fuel text gap rest

/-! ## Scalars between quotes -/

/-- A number of hexadecimal digits: their value. -/
def readHex (value : Nat) : Nat → List Char → Option (Nat × List Char)
  | 0, cs => some (value, cs)
  | count + 1, c :: rest => do readHex (value * 16 + (← Json.hexValue? c)) count rest
  | _ + 1, [] => none

/-- A character that is written by its code, in a number of hexadecimal digits. -/
def readCode (count : Nat) (cs : List Char) : Option (Char × List Char) := do
  let (code, rest) ← readHex 0 count cs
  if h : code.isValidChar then return (Char.ofNatAux code h, rest) else none

/-- The character of an escape, after its backslash. -/
def readEscape : List Char → Option (Char × List Char)
  | [] => none
  | c :: rest =>
    let code (n : Nat) : Option (Char × List Char) := some (Char.ofNat n, rest)
    match c with
    | '0' => code 0
    | 'a' => code 7
    | 'b' => code 8
    | 't' => code 9
    | '\t' => code 9
    | 'n' => code 10
    | 'v' => code 11
    | 'f' => code 12
    | 'r' => code 13
    | 'e' => code 0x1B
    | ' ' => code 0x20
    | '"' => code 0x22
    | '/' => code 0x2F
    | '\\' => code 0x5C
    | 'N' => code 0x85
    | '_' => code 0xA0
    | 'L' => code 0x2028
    | 'P' => code 0x2029
    | 'x' => readCode 2 rest
    | 'u' => readCode 4 rest
    | 'U' => readCode 8 rest
    | _ => none

/-- What ends a run of characters between quotes. -/
inductive RunEnd where
  /-- A blank, a line break, the closing quote or the end of the text. -/
  | plain
  /-- A line break behind a backslash. -/
  | joined
  deriving DecidableEq, Repr

/-- The characters between single quotes up to a blank or the closing quote. -/
def singleRun : List Char → List Char × List Char
  | '\x27' :: '\x27' :: rest =>
    let (run, rest) := singleRun rest
    ('\x27' :: run, rest)
  | c :: rest =>
    if c == '\x27' || Text.isBlank c || isBreak c then ([], c :: rest)
    else
      let (run, rest) := singleRun rest
      (c :: run, rest)
  | [] => ([], [])

/-- The characters between double quotes up to a blank or the closing quote, last one first. -/
def doubleRun : Nat → List Char → List Char → Option (List Char × RunEnd × List Char)
  | 0, run, cs => some (run, .plain, cs)
  | fuel + 1, run, cs =>
    match cs with
    | [] => some (run, .plain, [])
    | '\\' :: rest =>
      if Text.beginsIn isBreak rest then some (run, .joined, (takeBreak rest).2)
      else do
        let (c, rest) ← readEscape rest
        doubleRun fuel (c :: run) rest
    | c :: rest =>
      if c == '"' || Text.isBlank c || isBreak c then some (run, .plain, c :: rest)
      else doubleRun fuel (c :: run) rest

/-- Read a scalar behind its opening quote.  No line of it may begin with a mark between
documents. -/
def readQuoted (quote : Char) :
    Nat → List Char → Bool → List Char → Option (List Char × List Char)
  | 0, _, _, _ => none
  | fuel + 1, text, atLineStart, cs => do
    if cs.isEmpty || (atLineStart && atDocumentMark cs) then none
    let (run, stop, rest) ←
      if quote == '"' then
        (doubleRun cs.length [] cs).map fun (run, stop, rest) => (run.reverse, stop, rest)
      else
        let (run, rest) := singleRun cs
        some (run, RunEnd.plain, rest)
    let text := text ++ run
    if rest.head? == some quote then return (text, rest.drop 1)
    let (gap, rest) ← Gap.read 0 { isBroken := stop == .joined } rest
    readQuoted quote fuel (text ++ gap.text) (gap.isBroken && gap.column == 0) rest

/-! ## Blocks -/

/-- What happens to the line breaks at the end of a block. -/
inductive Chomping where
  | strip
  | clip
  | keep
  deriving DecidableEq, Repr

/-- The sign of the line breaks at the end. -/
def readChomping : List Char → Option Chomping × List Char
  | '+' :: rest => (some .keep, rest)
  | '-' :: rest => (some .strip, rest)
  | rest => (none, rest)

/-- The digit of an indentation, which is not zero. -/
def readWidth : List Char → Option (Option Nat × List Char)
  | c :: rest =>
    if c == '0' then none
    else if c.isDigit then some (some (c.toNat - '0'.toNat), rest)
    else some (none, c :: rest)
  | [] => some (none, [])

/-- The two indicators of a block, in either order. -/
def readHeader (cs : List Char) : Option (Chomping × Option Nat × List Char) := do
  match readChomping cs with
  | (some chomping, rest) =>
    let (width, rest) ← readWidth rest
    return (chomping, width, rest)
  | (none, rest) =>
    let (width, rest) ← readWidth rest
    if width.isNone then return (.clip, none, rest)
    let (chomping, rest) := readChomping rest
    return (chomping.getD .clip, width, rest)

/-- Skip blanks and a comment up to the end of a line. -/
def skipToBreak (cs : List Char) : List Char :=
  match cs.dropWhile Text.isBlank with
  | '#' :: rest => rest.dropWhile (!isBreak ·)
  | rest => rest

/-- The text of a block so far, and what may still be folded. -/
structure BlockText where
  text : List Char := []
  /-- What the line break behind the last line stands for. -/
  lastBreak : List Char := []
  /-- Whether the last line begins with a blank. -/
  isSpaced : Bool := false

/-- Add a line with the margin in front of it. -/
def BlockText.addLine (isLiteral : Bool) (block : BlockText) (breaks line lastBreak : List Char) :
    BlockText :=
  let isSpaced := Text.beginsIn Text.isBlank line
  let joint :=
    if !isLiteral && block.lastBreak == ['\n'] && !block.isSpaced && !isSpaced then
      if breaks.isEmpty then [' '] else []
    else block.lastBreak
  ⟨block.text ++ joint ++ breaks ++ line, lastBreak, isSpaced⟩

/-- Read the lines of a block at an indentation. -/
def readLines (isLiteral : Bool) (indent : Nat) :
    Nat → BlockText → Margin → List Char → Option (BlockText × Margin × List Char)
  | 0, block, margin, cs => some (block, margin, cs)
  | fuel + 1, block, margin, cs => do
    if cs.isEmpty || margin.column != indent then return (block, margin, cs)
    let (lastBreak, rest) := takeBreak (cs.dropWhile (!isBreak ·))
    let block := block.addLine isLiteral margin.breaks (cs.takeWhile (!isBreak ·)) lastBreak
    let (margin, rest) ← Margin.read (some indent) {} rest
    readLines isLiteral indent fuel block margin rest

/-- Read a block behind its indicator, inside of a block collection at the given indentation. -/
def readBlock (isLiteral : Bool) (outer : Int) (cs : List Char) :
    Option (List Char × List Char) := do
  let (chomping, width, rest) ← readHeader cs
  let rest := skipToBreak rest
  if !(rest.isEmpty || Text.beginsIn isBreak rest) then none
  let explicit := width.map fun n => (max outer 0).toNat + n
  let (margin, rest) ← Margin.read explicit {} (takeBreak rest).2
  let indent := explicit.getD (max margin.widest (max (outer + 1) 1).toNat)
  let (block, margin, rest) ← readLines isLiteral indent rest.length {} margin rest
  let ending := match chomping with
    | .strip => []
    | .clip => block.lastBreak
    | .keep => block.lastBreak ++ margin.breaks
  return (block.text ++ ending, rest)

end TagTemplates.Yaml
