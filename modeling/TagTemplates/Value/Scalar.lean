import TagTemplates.Number.Binary64
import TagTemplates.Number.Word

/-!
# Scalars

The values that print as themselves: whole numbers, fractional numbers, booleans and text.  The
rules of the template language for them stand here too: how two of them compare, when one counts
as a number, and the four questions (`Quality`) that can be asked of any value.
-/

namespace TagTemplates

open Number

/-- A question about a value. -/
inductive Quality where
  | truthy
  /-- Whether a default takes its place. -/
  | replaceable
  | empty
  | blank
  deriving DecidableEq, Repr

/-- A value that prints as itself. -/
inductive Scalar where
  | whole (value : Int)
  | fractional (value : Binary64)
  | bool (value : Bool)
  | string (value : String)
  deriving DecidableEq, Repr

namespace Scalar

/-- The text a scalar prints as. -/
def text : Scalar → String
  | whole i => String.ofList (Text.intDigits i)
  | fractional x => x.text
  | bool b => if b then "true" else "false"
  | string s => s

/-- The text of a scalar as a literal of the template language. -/
def source : Scalar → String
  | string s => "\"" ++ s ++ "\""
  | other => other.text

/-- The name of the type of a scalar. -/
def typeName : Scalar → String
  | whole _ => "whole number"
  | fractional _ => "fractional number"
  | bool _ => "boolean"
  | string _ => "string"

/-- The length of the text of a scalar, in bytes. -/
def size (s : Scalar) : Nat := s.text.utf8ByteSize

/-- The answer to a question about a scalar: only `false` is not truthy, and only `false` and text
without content can be empty, blank or replaceable. -/
def has (q : Quality) : Scalar → Bool
  | bool b =>
    match q with
    | .truthy => b
    | .replaceable => !b
    | .empty => false
    | .blank => !b
  | string s =>
    match q with
    | .truthy => true
    | .replaceable => s.isEmpty
    | .empty => s.isEmpty
    | .blank => (Text.trim s.toList).isEmpty
  | _ => q == .truthy

/-! ## Scalars as numbers -/

/-- The whole number that a scalar is, or that its text writes. -/
def whole? : Scalar → Option Int
  | whole i => some i
  | string s => (Text.readInt? s.toList).filter Number.fitsSigned
  | _ => none

/-- The fractional number that a scalar is, or that its text writes. -/
def fractional? : Scalar → Option Float
  | whole i => some (Float.ofInt i)
  | fractional x => some x.toFloat
  | string s => (Binary64.read? s.toList).map Binary64.toFloat
  | bool _ => none

/-! ## Comparing -/

/-- Whether two scalars are equal for a template.  Numbers of both kinds compare by value, and
`true` equals everything that is no boolean. -/
def equal : Scalar → Scalar → Bool
  | whole a, whole b => a == b
  | whole a, fractional b => Float.ofInt a == b.toFloat
  | fractional a, whole b => a.toFloat == Float.ofInt b
  | fractional a, fractional b => a.toFloat == b.toFloat
  | bool a, bool b => a == b
  | string a, string b => a == b
  | _, bool b => b
  | bool a, _ => a
  | _, _ => false

/-- The order of two floating-point numbers; none when one of them is no number. -/
def compareFloats (a b : Float) : Option Ordering :=
  if a < b then some .lt else if b < a then some .gt else if a == b then some .eq else none

/-- The order of two scalars of one kind; the two kinds of numbers count as one. -/
def compare? : Scalar → Scalar → Option Ordering
  | whole a, whole b => some (compare a b)
  | whole a, fractional b => compareFloats (Float.ofInt a) b.toFloat
  | fractional a, whole b => compareFloats a.toFloat (Float.ofInt b)
  | fractional a, fractional b => compareFloats a.toFloat b.toFloat
  | bool a, bool b => some (compare a.toNat b.toNat)
  | string a, string b => some (compare a b)
  | _, _ => none

end Scalar

end TagTemplates
