import TagTemplates.Number.Binary64
import TagTemplates.Number.Word

/-!
# Data values

The data that templates are rendered with: the values of JSON.  A whole number fits in a signed
64-bit word; every other number is a binary64 number.  An object is a list of entries in the order
of their keys, without a repeated key; `Json.object` puts any list of entries into that form, the
last entry of a key winning.
-/

namespace TagTemplates

/-- A number of data. -/
inductive Number where
  | whole (value : Int)
  | fractional (value : Number.Binary64)
  deriving DecidableEq, Repr

/-- A value of data. -/
inductive Json where
  | null
  | bool (value : Bool)
  | number (value : Number)
  | string (value : String)
  | array (items : List Json)
  | object (entries : List (String × Json))
  deriving Inhabited

namespace Json

/-- The name of the type of a value, for messages. -/
def typeName : Json → String
  | null => "null"
  | bool _ => "boolean"
  | number _ => "number"
  | string _ => "string"
  | array _ => "array"
  | object _ => "object"

/-! ## Objects -/

/-- Put an entry into a list that is ordered by its keys; an entry with the same key is
replaced. -/
def insertEntry (key : String) (value : Json) : List (String × Json) → List (String × Json)
  | [] => [(key, value)]
  | (k, v) :: rest =>
    if key = k then (key, value) :: rest
    else if key < k then (key, value) :: (k, v) :: rest
    else (k, v) :: insertEntry key value rest

/-- The object with the given entries: ordered by key, the last entry of a key winning. -/
def ofEntries (entries : List (String × Json)) : Json :=
  object (entries.foldl (fun acc e => insertEntry e.1 e.2 acc) [])

/-- The value of a key. -/
def lookup (key : String) (entries : List (String × Json)) : Option Json :=
  (entries.find? fun e => e.1 == key).map (·.2)

/-- The value of a name: of the key that is exactly the name, or else of the first key that is the
name up to ASCII case. -/
def lookupName (name : String) (entries : List (String × Json)) : Option Json :=
  match lookup name entries with
  | some value => some value
  | none => (entries.find? fun e => Text.sameName e.1 name).map (·.2)

/-- The value of a key of an object; `none` for other values. -/
def get? (key : String) : Json → Option Json
  | object entries => lookup key entries
  | _ => none

/-! ## Views of one type -/

def string? : Json → Option String
  | string s => some s
  | _ => none

def bool? : Json → Option Bool
  | bool b => some b
  | _ => none

def int? : Json → Option Int
  | number (.whole i) => some i
  | _ => none

def array? : Json → Option (List Json)
  | array items => some items
  | _ => none

def object? : Json → Option (List (String × Json))
  | object entries => some entries
  | _ => none

def isNull : Json → Bool
  | null => true
  | _ => false

end Json

end TagTemplates
