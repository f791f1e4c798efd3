import TagTemplates.Number.Shortest

/-!
# Binary floating-point numbers

A fractional number of data is a binary64 number, kept by its bits so that two of them can be
compared.  The text of one is the shortest decimal that reads back, written without an exponent;
`-0` keeps its sign.

Two ways of reading decimals occur.  `ofDecimal` rounds correctly.  `ofParts` is the quick way in
which data is read: the digits as a 64-bit word, converted once and scaled once by a power of ten,
so that the last bit can differ from the correctly rounded number.
-/

namespace TagTemplates.Number

/-- A binary64 number, by its bits. -/
structure Binary64 where
  bits : UInt64
  deriving DecidableEq, Repr

namespace Binary64

def ofFloat (x : Float) : Binary64 := ⟨x.toBits⟩

def toFloat (x : Binary64) : Float := Float.ofBits x.bits

instance : Inhabited Binary64 := ⟨⟨0⟩⟩

def isNegative (x : Binary64) : Bool := x.bits >>> 63 != 0

def exponentField (x : Binary64) : Nat := ((x.bits >>> 52) &&& 0x7FF).toNat

def fractionField (x : Binary64) : Nat := (x.bits &&& 0xFFFFFFFFFFFFF).toNat

def isInfinite (x : Binary64) : Bool := x.exponentField == 2047 && x.fractionField == 0

/-! ## Writing -/

/-- The bit of a mantissa that is not stored. -/
def hiddenBit : Nat := 4503599627370496

/-- The text of the absolute value. -/
def magnitudeText (x : Binary64) : List Char :=
  let e := x.exponentField
  let f := x.fractionField
  if e == 0 && f == 0 then ['0']
  else if e == 0 then positional (Interval.ofBinary f (-1074) false).shortest
  else positional
    (Interval.ofBinary (f + hiddenBit) ((e : Int) - 1075) (f == 0 && e != 1)).shortest

/-- The text of a number. -/
def text (x : Binary64) : String :=
  if x.exponentField == 2047 then
    if x.fractionField != 0 then "NaN" else if x.isNegative then "-inf" else "inf"
  else
    String.ofList (if x.isNegative then '-' :: x.magnitudeText else x.magnitudeText)

/-! ## Reading -/

/-- The number nearest to `digits * 10 ^ scale`. -/
def ofDecimal (negative : Bool) (digits : Nat) (scale : Int) : Binary64 :=
  let size : Int := (Text.natDigits digits).length + scale
  let x : Float :=
    if digits == 0 || size < -400 then 0
    else if 400 < size then 1 / 0
    else if 0 ≤ scale then Float.ofScientific digits false scale.toNat
    else Float.ofScientific digits true (-scale).toNat
  ofFloat (if negative then -x else x)

/-- A power of ten up to the 308th. -/
def tenTo (n : Nat) : Float := Float.ofScientific 1 false n

/-- Scale a 64-bit word by a power of ten, in steps of at most 308 places; `none` when the number
is too large. -/
def ofParts (negative : Bool) (digits : UInt64) (scale : Int) : Option Binary64 :=
  go 40 digits.toFloat scale |>.map fun x => ofFloat (if negative then -x else x)
where
  go : Nat → Float → Int → Option Float
    | 0, x, _ => some x
    | fuel + 1, x, scale =>
      if scale.natAbs ≤ 308 then
        if 0 ≤ scale then
          let y := x * tenTo scale.natAbs
          if y.isInf then none else some y
        else some (x / tenTo scale.natAbs)
      else if x == 0 then some x
      else if 0 ≤ scale then none
      else go fuel (x / tenTo 308) (scale + 308)

/-- Read the text of a number: digits with an optional point and an optional exponent, or one of
the words for infinity and for a result that is no number. -/
def read? (cs : List Char) : Option Binary64 :=
  match cs with
  | '-' :: rest => body true rest
  | '+' :: rest => body false rest
  | rest => body false rest
where
  body (negative : Bool) (cs : List Char) : Option Binary64 :=
    let word := String.ofList (Text.foldChars cs)
    if word == "inf" || word == "infinity" then
      some (ofFloat (if negative then -(1 / 0) else 1 / 0))
    else if word == "nan" then some (ofFloat (0 / 0))
    else
      let whole := cs.takeWhile Char.isDigit
      let afterWhole := cs.dropWhile Char.isDigit
      let (places, afterPlaces) :=
        match afterWhole with
        | '.' :: rest => (rest.takeWhile Char.isDigit, rest.dropWhile Char.isDigit)
        | rest => ([], rest)
      if whole.isEmpty && places.isEmpty then none
      else
        let finish (exponent : Int) : Option Binary64 :=
          some (ofDecimal negative (Text.digitsValue (whole ++ places))
            (exponent - (places.length : Int)))
        match afterPlaces with
        | [] => finish 0
        | c :: rest =>
          if c == 'e' || c == 'E' then
            match Text.readInt? rest with
            | some exponent => finish exponent
            | none => none
          else none

end Binary64

end TagTemplates.Number
