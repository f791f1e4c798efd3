import TagTemplates.Json.Basic

/-!
# Writing JSON text

Two layouts of the same value: `Json.compact` on one line, and `Json.pretty` with one item a line
and two blanks for each level.  Strings escape the quote, the backslash and the control characters;
everything else is written as it is.
-/

namespace TagTemplates.Json

def hexDigit (n : Nat) : Char :=
  if n < 10 then Char.ofNat (n + '0'.toNat) else Char.ofNat (n - 10 + 'a'.toNat)

/-- The written form of a character inside a string. -/
def escapeChar (c : Char) : List Char :=
  match c with
  | '"' => ['\\', '"']
  | '\\' => ['\\', '\\']
  | '\n' => ['\\', 'n']
  | '\r' => ['\\', 'r']
  | '\t' => ['\\', 't']
  | c =>
    if c.toNat = 8 then ['\\', 'b']
    else if c.toNat = 12 then ['\\', 'f']
    else if c.toNat < 0x20 then
      ['\\', 'u', '0', '0', hexDigit (c.toNat / 16), hexDigit (c.toNat % 16)]
    else [c]

/-- A string in its quotes. -/
def quoted (s : String) : String :=
  String.ofList ('"' :: s.toList.flatMap escapeChar ++ ['"'])

def numberText : Number → String
  | .whole i => String.ofList (Text.intDigits i)
  | .fractional x => x.text

mutual

/-- A value on one line, without blanks. -/
def compact : Json → String
  | null => "null"
  | bool b => if b then "true" else "false"
  | number n => numberText n
  | string s => quoted s
  | array items => "[" ++ Text.join "," (compactItems items) ++ "]"
  | object entries => "\x7b" ++ Text.join "," (compactEntries entries) ++ "\x7d"

def compactItems : List Json → List String
  | [] => []
  | item :: items => compact item :: compactItems items

def compactEntries : List (String × Json) → List String
  | [] => []
  | (key, value) :: entries => (quoted key ++ ":" ++ compact value) :: compactEntries entries

end

/-- The start of a line at a level of nesting. -/
def newLine (level : Nat) : String := "\n" ++ String.ofList (List.replicate (2 * level) ' ')

mutual

/-- A value with one item a line; the line it starts on is indented to the given level. -/
def prettyAt (level : Nat) : Json → String
  | array [] => "[]"
  | array items =>
    "[" ++ newLine (level + 1) ++
      Text.join ("," ++ newLine (level + 1)) (prettyItems (level + 1) items) ++
      newLine level ++ "]"
  | object [] => "\x7b\x7d"
  | object entries =>
    "\x7b" ++ newLine (level + 1) ++
      Text.join ("," ++ newLine (level + 1)) (prettyEntries (level + 1) entries) ++
      newLine level ++ "\x7d"
  | value => compact value

def prettyItems (level : Nat) : List Json → List String
  | [] => []
  | item :: items => prettyAt level item :: prettyItems level items

def prettyEntries (level : Nat) : List (String × Json) → List String
  | [] => []
  | (key, value) :: entries =>
    (quoted key ++ ": " ++ prettyAt level value) :: prettyEntries level entries

end

/-- A value with one item a line. -/
def pretty (value : Json) : String := prettyAt 0 value

end TagTemplates.Json
