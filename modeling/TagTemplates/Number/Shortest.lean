import TagTemplates.Text.Basic

/-!
# The shortest decimal that reads back

A finite binary number is `m * 2 ^ q`.  Every real number close enough to it is read back as the
same number; these reals form an interval whose ends belong to it exactly when `m` is even.  The
shortest decimal text is found on the decimal grids, from the coarsest to the finest: the first
grid with a point in the interval decides the number of digits, and the point nearest to the
number decides the digits.

All arithmetic is on natural numbers, so nothing is rounded on the way.

* `Interval` holds the number and the two ends over a common denominator.
* `Interval.shortest` finds the decimal.
* `positional` writes a decimal without an exponent.
-/

namespace TagTemplates.Number

/-- A decimal: `digits * 10 ^ scale`. -/
structure Decimal where
  digits : Nat
  scale : Int
  deriving DecidableEq, Repr

/-- A positive number `value / unit` and the ends of the interval of reals that are read as it. -/
structure Interval where
  value : Nat
  low : Nat
  high : Nat
  unit : Nat
  /-- Whether the ends themselves are read as the number. -/
  closed : Bool

namespace Interval

/-- The interval of `mantissa * 2 ^ exponent`.  The gap below is half as wide as the gap above
when the number is the first one of a new power of two. -/
def ofBinary (mantissa : Nat) (exponent : Int) (narrowBelow : Bool) : Interval :=
  let up := Nat.pow 2 exponent.toNat
  let unit := 4 * Nat.pow 2 (-exponent).toNat
  { value := 4 * mantissa * up
    low := (4 * mantissa - if narrowBelow then 1 else 2) * up
    high := (4 * mantissa + 2) * up
    unit
    closed := mantissa % 2 == 0 }

/-- Whether `digits * 10 ^ scale` is read as the number. -/
def contains (i : Interval) (digits : Nat) (scale : Int) : Bool :=
  let point := digits * Nat.pow 10 scale.toNat * i.unit
  let shift := Nat.pow 10 (-scale).toNat
  if i.closed then i.low * shift ≤ point && point ≤ i.high * shift
  else i.low * shift < point && point < i.high * shift

/-- The position of the first digit: the number of digits before the point, or minus the number
of zeros that follow it. -/
def magnitude (i : Interval) : Int :=
  let whole := i.value / i.unit
  if 0 < whole then (Text.natDigits whole).length
  else - go 400 i.value 0
where
  go : Nat → Nat → Nat → Int
    | 0, _, zeros => zeros
    | fuel + 1, value, zeros =>
      if i.unit ≤ value * 10 then zeros else go fuel (value * 10) (zeros + 1)

/-- The nearest point of a grid that is read as the number; of two equally near points the
upper one. -/
def pointOn (i : Interval) (scale : Int) : Option Decimal :=
  let scaled := i.value * Nat.pow 10 (-scale).toNat
  let step := i.unit * Nat.pow 10 scale.toNat
  let below := scaled / step
  let above := below + 1
  match i.contains below scale, i.contains above scale with
  | true, true =>
    some ⟨if scaled - below * step < above * step - scaled then below else above, scale⟩
  | true, false => some ⟨below, scale⟩
  | false, true => some ⟨above, scale⟩
  | false, false => none

/-- The decimal with the fewest digits that is read as the number. -/
def shortest (i : Interval) : Decimal :=
  let top := i.magnitude
  match (List.range 17).findSome? (fun n => i.pointOn (top - (n + 1 : Nat))) with
  | some d => d
  | none => ⟨i.value / i.unit, 0⟩

end Interval

/-- Divide out the trailing zeros of a decimal as long as it has places after the point. -/
def Decimal.reduce (d : Decimal) : Decimal := go d.digits (-d.scale).toNat
where
  go (digits : Nat) : Nat → Decimal
    | 0 => ⟨digits, if d.scale < 0 then 0 else d.scale⟩
    | places + 1 =>
      if digits % 10 = 0 then go (digits / 10) places else ⟨digits, -(places + 1 : Nat)⟩

/-- Write a decimal without an exponent, and without a point when it is a whole number. -/
def positional (d : Decimal) : List Char :=
  let d := d.reduce
  let ds := Text.natDigits d.digits
  if 0 ≤ d.scale then ds ++ List.replicate d.scale.toNat '0'
  else
    let places := (-d.scale).toNat
    let padded := List.replicate (places + 1 - ds.length) '0' ++ ds
    padded.take (padded.length - places) ++ '.' :: padded.drop (padded.length - places)

end TagTemplates.Number
