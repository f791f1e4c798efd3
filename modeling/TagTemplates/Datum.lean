import TagTemplates.Json.Basic

/-!
# Typed values of documents

A definition or a settings file is a document in one of several formats.  Whatever the format, its
content is a `Datum`: the common ground of those formats.  The entries of a map keep their order and
their repetitions, and their keys need not be texts; what to do about either is up to the reader of
the document.
-/

namespace TagTemplates

/-- A typed value of a document. -/
inductive Datum where
  | null
  | bool (value : Bool)
  | whole (value : Int)
  | fractional (value : Number.Binary64)
  | text (value : String)
  | list (items : List Datum)
  | map (entries : List (Datum × Datum))
  deriving Inhabited

namespace Datum

def text? : Datum → Option String
  | text value => some value
  | _ => none

def bool? : Datum → Option Bool
  | bool value => some value
  | _ => none

def list? : Datum → Option (List Datum)
  | list items => some items
  | _ => none

/-- A text that may be missing: `none` when the value is something else. -/
def optionalText? : Datum → Option (Option String)
  | null => some none
  | text value => some (some value)
  | _ => none

mutual

/-- Whether every whole number of a value fits in a 64-bit word, signed or not. -/
def fitsWords : Datum → Bool
  | whole value => Number.fitsWord value
  | list items => fitWords items
  | map entries => entriesFitWords entries
  | _ => true

def fitWords : List Datum → Bool
  | [] => true
  | item :: items => item.fitsWords && fitWords items

def entriesFitWords : List (Datum × Datum) → Bool
  | [] => true
  | (key, value) :: entries => key.fitsWords && value.fitsWords && entriesFitWords entries

end

mutual

/-- A value of data as a typed value. -/
def ofJson : Json → Datum
  | .null => null
  | .bool value => bool value
  | .number (.whole value) => whole value
  | .number (.fractional value) => fractional value
  | .string value => text value
  | .array items => list (ofItems items)
  | .object entries => map (ofEntries entries)

def ofItems : List Json → List Datum
  | [] => []
  | item :: items => ofJson item :: ofItems items

def ofEntries : List (String × Json) → List (Datum × Datum)
  | [] => []
  | (key, value) :: entries => (text key, ofJson value) :: ofEntries entries

end

end Datum

end TagTemplates
