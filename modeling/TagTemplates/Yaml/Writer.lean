import TagTemplates.Json.Writer
import TagTemplates.Yaml.Line
import TagTemplates.Yaml.Node

/-!
# Writing YAML text

`Form.write` writes texts, truth values, lists and records in block layout, with two blanks for each
level of records and none for lists.  An empty list or record is written as a pair of brackets.

A text of several lines is written as a literal block.  Any other text is plain when that reads back
as the same text, between single quotes when its form would be taken for something else, and between
double quotes when it holds characters that need an escape.

Output is built back to front: `Output` holds its characters, the last one first.
-/

namespace TagTemplates.Yaml

/-- What is written: texts, truth values, lists and records. -/
inductive Form where
  | text (value : String)
  | flag (value : Bool)
  | list (items : List Form)
  | record (entries : List (String × Form))

/-! ## The styles of a text -/

/-- The characters that need no escape. -/
def isPrintable (c : Char) : Bool :=
  let n := c.toNat
  n == 0x0A || (0x20 ≤ n && n ≤ 0x7E) || (0xA0 ≤ n && n ≤ 0xFFFD && n != 0xFEFF) || 0x10000 ≤ n

/-- Whether a character of the first class stands right in front of one of the second. -/
def hasPair (p q : Char → Bool) : List Char → Bool
  | a :: b :: rest => (p a && q b) || hasPair p q (b :: rest)
  | _ => false

/-- Whether an indicator that a plain scalar must not hold stands behind its first character. -/
def hasInnerIndicator (before : Char) : List Char → Bool
  | [] => false
  | c :: rest =>
    (c == ':' && endsWord rest) || (c == '#' && (Text.isBlank before || isBreak before)) ||
      hasInnerIndicator c rest

/-- Whether a text holds an indicator that keeps it from being plain. -/
def hasIndicator : List Char → Bool
  | [] => false
  | c :: rest =>
    "---".toList.isPrefixOf (c :: rest) || "...".toList.isPrefixOf (c :: rest) ||
      "#,[]\x7b\x7d&*!|>'\"%@\x60".toList.contains c ||
      ((c == '?' || c == ':' || c == '-') && endsWord rest) || hasInnerIndicator c rest

/-- The styles in which a text is written. -/
inductive Style where
  | plain
  | single
  | double
  | literal
  deriving DecidableEq, Repr

/-- Whether the spaces next to line breaks keep a text from being written between single quotes. -/
def needsEscapes (cs : List Char) : Bool :=
  !cs.all isPrintable || hasPair (· == ' ') isBreak cs || hasPair isBreak (· == ' ') cs

/-- Whether the text of a plain scalar would be read as something else. -/
def looksTyped (s : String) : Bool :=
  hasNeedlessZero s.toList ||
    match ofPlain s with
    | .text _ => false
    | _ => true

/-- Whether a text can be written as a plain scalar. -/
def fitsPlain (cs : List Char) : Bool :=
  let isEdge (c : Char) : Bool := c == ' ' || isBreak c
  !(Text.beginsIn isEdge cs || Text.endsIn isEdge cs || cs.any isBreak || needsEscapes cs ||
    hasIndicator cs)

/-- Whether a text can be written as a literal block. -/
def fitsLiteral (cs : List Char) : Bool :=
  cs.all isPrintable && !hasPair (· == ' ') isBreak cs && !Text.endsIn (· == ' ') cs

/-- The style of a text. -/
def styleOf (s : String) : Style :=
  let cs := s.toList
  if cs.contains '\n' then (if fitsLiteral cs then .literal else .double)
  else if !looksTyped s && fitsPlain cs then .plain
  else if needsEscapes cs then .double
  else .single

/-! ## Output -/

/-- Characters that have been written, the last one first. -/
abbrev Output := List Char

namespace Output

def put (text : List Char) (out : Output) : Output := text.reverse ++ out

def blanks (count : Nat) (out : Output) : Output := List.replicate count ' ' ++ out

/-- Begin a line, unless one has just been begun, and indent it. -/
def line (indent : Nat) (out : Output) : Output :=
  blanks indent (if out.isEmpty || Text.beginsIn isBreak out then out else '\n' :: out)

/-- Write the lines of a scalar: every line but the first is indented. -/
def lines (indent : Nat) (write : Char → List Char) (out : Output) (cs : List Char) : Output :=
  cs.foldl (fun out c =>
    if isBreak c then c :: out
    else put (write c) (if Text.beginsIn isBreak out then blanks indent out else out)) out

/-- Write a scalar between single quotes. -/
def single (indent : Nat) (cs : List Char) (out : Output) : Output :=
  let write (c : Char) : List Char := if c == '\x27' then [c, c] else [c]
  let out := lines indent write ('\x27' :: out) cs
  '\x27' :: (if Text.beginsIn isBreak out then blanks indent out else out)

/-- The digits of a code. -/
def hexDigits (width code : Nat) : List Char :=
  (List.range width).map fun i => (Json.hexDigit (code / Nat.pow 16 (width - 1 - i) % 16)).toUpper

/-- The written form of a character between double quotes. -/
def escape (c : Char) : List Char :=
  let n := c.toNat
  let short : Option Char :=
    [(0, '0'), (7, 'a'), (8, 'b'), (9, 't'), (10, 'n'), (11, 'v'), (12, 'f'), (13, 'r'),
      (0x1B, 'e'), (0x22, '"'), (0x5C, '\\'), (0x85, 'N'), (0x2028, 'L'), (0x2029, 'P')].lookup n
  match short with
  | some letter => ['\\', letter]
  | none =>
    if isPrintable c then [c]
    else if n ≤ 0xFF then '\\' :: 'x' :: hexDigits 2 n
    else if n ≤ 0xFFFF then '\\' :: 'u' :: hexDigits 4 n
    else '\\' :: 'U' :: hexDigits 8 n

/-- Write a scalar between double quotes. -/
def double (cs : List Char) (out : Output) : Output :=
  '"' :: put (cs.flatMap escape) ('"' :: out)

/-- The indicators of a literal block: a width when its first line begins with a space or is empty,
and what happens to the line breaks at its end. -/
def hints (cs : List Char) : List Char :=
  let width := if Text.beginsIn (fun c => c == ' ' || isBreak c) cs then ['2'] else []
  let chomping := match cs.reverse with
    | [] => ['-']
    | last :: before =>
      if !isBreak last then ['-']
      else if before.isEmpty || Text.beginsIn isBreak before then ['+']
      else []
  width ++ chomping

/-- Write a literal block. -/
def literal (indent : Nat) (cs : List Char) (out : Output) : Output :=
  lines indent (fun c => [c]) ('\n' :: put (hints cs) ('|' :: out)) cs

/-- Write a text behind a blank. -/
def scalar (indent : Nat) (s : String) (out : Output) : Output :=
  let cs := s.toList
  let out := ' ' :: out
  match styleOf s with
  | .plain => put cs out
  | .single => single indent cs out
  | .double => double cs out
  | .literal => literal indent cs out

end Output

/-! ## Forms -/

namespace Form

mutual

/-- Write a value behind a key or the mark of an item.  Its lists stand at the given column, and
its records two columns further. -/
def write (indent : Nat) (out : Output) : Form → Output
  | text s => Output.scalar (indent + 2) s out
  | flag b => Output.put (if b then " true".toList else " false".toList) out
  | list [] => Output.put " []".toList out
  | list items => writeItems indent out items
  | record [] => Output.put " \x7b\x7d".toList out
  | record entries => writeEntries (indent + 2) out entries

/-- Write the items of a list. -/
def writeItems (indent : Nat) (out : Output) : List Form → Output
  | [] => out
  | item :: items =>
    let out := '-' :: Output.line indent out
    let out := match item with
      | record ((key, value) :: entries) =>
        let out := write (indent + 2) (Output.put (' ' :: key.toList ++ [':']) out) value
        writeEntries (indent + 2) out entries
      | item => write indent out item
    writeItems indent out items

/-- Write the entries of a record. -/
def writeEntries (indent : Nat) (out : Output) : List (String × Form) → Output
  | [] => out
  | (key, value) :: entries =>
    let out := write indent (Output.put (key.toList ++ [':']) (Output.line indent out)) value
    writeEntries indent out entries

end

/-- A record as a document. -/
def document (entries : List (String × Form)) : String :=
  String.ofList (Output.line 0 (writeEntries 0 [] entries)).reverse

mutual

/-- What is written, as a value of data. -/
def toJson : Form → Json
  | text s => .string s
  | flag b => .bool b
  | list items => .array (itemsToJson items)
  | record entries => .ofEntries (entriesToJson entries)

def itemsToJson : List Form → List Json
  | [] => []
  | item :: items => item.toJson :: itemsToJson items

def entriesToJson : List (String × Form) → List (String × Json)
  | [] => []
  | (key, value) :: entries => (key, value.toJson) :: entriesToJson entries

end

end Form

end TagTemplates.Yaml
