import TagTemplates.Datum
import TagTemplates.Toml.Text

/-!
# Numbers and dates of TOML

Numbers may hold an underscore between two digits.  A whole number fits in a signed 64-bit word, and
a fractional one must not be too large.  A date or a time has no type among data: it is kept as a map
of its text.
-/

namespace TagTemplates.Toml

/-! ## Numbers -/

/-- Digits with single underscores between them, which are taken out. -/
def readDigits (isDigit : Char → Bool) : List Char → Option (List Char × List Char)
  | c :: '_' :: rest =>
    if isDigit c then (readDigits isDigit rest).map fun (digits, rest) => (c :: digits, rest)
    else none
  | c :: rest =>
    if isDigit c then
      if rest.head?.any isDigit then
        (readDigits isDigit rest).map fun (digits, rest) => (c :: digits, rest)
      else some ([c], rest)
    else none
  | [] => none

/-- A sign, and whether it is a minus. -/
def readSign : List Char → Bool × List Char
  | '-' :: rest => (true, rest)
  | '+' :: rest => (false, rest)
  | rest => (false, rest)

/-- The digits of a decimal number, which has no needless zero in front. -/
def readDecimal (cs : List Char) : Option (List Char × List Char) :=
  match readDigits Char.isDigit cs with
  | some (digits, rest) =>
    if cs.head? == some '0' && 1 < digits.length then none else some (digits, rest)
  | none => none

/-- A whole number in another base, behind its mark. -/
def readBase (base : Nat) (cs : List Char) : Option (Datum × List Char) := do
  let isDigit (c : Char) : Bool := (Json.hexValue? c).any (· < base)
  let (digits, rest) ← readDigits isDigit cs
  let n : Nat := digits.foldl (fun n c => base * n + (Json.hexValue? c).getD 0) 0
  if Number.fitsSigned n then return (.whole n, rest) else none

/-- The exponent of a number, if there is one. -/
def readExponent (cs : List Char) : Option (Option Int × List Char) :=
  match cs with
  | c :: rest =>
    if c == 'e' || c == 'E' then do
      let (isNegative, rest) := readSign rest
      let (digits, rest) ← readDigits Char.isDigit rest
      let n : Int := Text.digitsValue digits
      return (some (if isNegative then -n else n), rest)
    else some (none, cs)
  | [] => some (none, [])

/-- A fractional number, unless it is too large. -/
def fractional? (isNegative : Bool) (digits : List Char) (scale : Int) : Option Datum :=
  let x := Number.Binary64.ofDecimal isNegative (Text.digitsValue digits) scale
  if x.isInfinite && !isNegative then none else some (.fractional x)

/-- A decimal number behind its sign. -/
def readUnsigned (isNegative : Bool) (cs : List Char) : Option (Datum × List Char) := do
  let (whole, rest) ← readDecimal cs
  match rest with
  | '.' :: more =>
    let (places, rest) ← readDigits Char.isDigit more
    let (exponent, rest) ← readExponent rest
    let scale := exponent.getD 0 - (places.length : Int)
    return (← fractional? isNegative (whole ++ places) scale, rest)
  | _ =>
    match ← readExponent rest with
    | (some exponent, rest) => return (← fractional? isNegative whole exponent, rest)
    | (none, rest) =>
      let n : Int := Text.digitsValue whole
      let n := if isNegative then -n else n
      if Number.fitsSigned n then return (.whole n, rest) else none

/-- A number. -/
def readNumber (cs : List Char) : Option (Datum × List Char) :=
  match cs with
  | '0' :: 'x' :: rest => readBase 16 rest
  | '0' :: 'o' :: rest => readBase 8 rest
  | '0' :: 'b' :: rest => readBase 2 rest
  | _ =>
    let (isNegative, rest) := readSign cs
    match rest with
    | 'i' :: 'n' :: 'f' :: rest =>
      some (.fractional (.ofFloat (if isNegative then -(1 / 0) else 1 / 0)), rest)
    | 'n' :: 'a' :: 'n' :: rest => some (.fractional (.ofFloat (0 / 0)), rest)
    | _ => readUnsigned isNegative rest

/-! ## Dates and times -/

/-- A number of exactly the given count of digits. -/
def readExact (count : Nat) (cs : List Char) : Option (Nat × List Char) :=
  let digits := cs.take count
  if digits.length == count && digits.all Char.isDigit then
    some (Text.digitsValue digits, cs.drop count)
  else none

/-- The text behind a character. -/
def after? (c : Char) (cs : List Char) : Option (List Char) :=
  if cs.head? == some c then some (cs.drop 1) else none

/-- The number of days of a month. -/
def daysOf (year month : Nat) : Nat :=
  let isLeap := year % 4 == 0 && (year % 100 != 0 || year % 400 == 0)
  if month == 2 then (if isLeap then 29 else 28)
  else if [4, 6, 9, 11].contains month then 30
  else 31

/-- Skip a date. -/
def afterDate? (cs : List Char) : Option (List Char) := do
  let (year, rest) ← readExact 4 cs
  let (month, rest) ← readExact 2 (← after? '-' rest)
  let (day, rest) ← readExact 2 (← after? '-' rest)
  if 1 ≤ month && month ≤ 12 && 1 ≤ day && day ≤ daysOf year month then return rest else none

/-- Skip hours and minutes. -/
def afterMinutes? (cs : List Char) : Option (List Char) := do
  let (hour, rest) ← readExact 2 cs
  let (minute, rest) ← readExact 2 (← after? ':' rest)
  if hour ≤ 23 && minute ≤ 59 then return rest else none

/-- Skip a time. -/
def afterTime? (cs : List Char) : Option (List Char) := do
  let (second, rest) ← readExact 2 (← after? ':' (← afterMinutes? cs))
  if 60 < second then none
  match rest with
  | '.' :: c :: more => if c.isDigit then return more.dropWhile Char.isDigit else return rest
  | _ => return rest

/-- Skip an offset, if there is one. -/
def afterOffset (cs : List Char) : List Char :=
  match cs with
  | c :: rest =>
    if c == 'Z' || c == 'z' then rest
    else if c == '+' || c == '-' then (afterMinutes? rest).getD cs
    else cs
  | [] => []

/-- Skip a date, a time, or both. -/
def afterMoment? (cs : List Char) : Option (List Char) :=
  match afterDate? cs with
  | some rest =>
    match rest with
    | c :: more =>
      if c == 'T' || c == 't' || c == ' ' then some ((afterTime? more).elim rest afterOffset)
      else some rest
    | [] => some []
  | none => afterTime? cs

/-- Read a date, a time, or both. -/
def readMoment (cs : List Char) : Option (Datum × List Char) := do
  let rest ← afterMoment? cs
  let text := String.ofList (cs.take (cs.length - rest.length))
  return (.map [(.text "moment", .text text)], rest)

/-- A number, a date or a truth value. -/
def readPlain (cs : List Char) : Option (Datum × List Char) :=
  match cs with
  | 't' :: 'r' :: 'u' :: 'e' :: rest => some (.bool true, rest)
  | 'f' :: 'a' :: 'l' :: 's' :: 'e' :: rest => some (.bool false, rest)
  | _ =>
    match readMoment cs with
    | some answer => some answer
    | none => readNumber cs

end TagTemplates.Toml
