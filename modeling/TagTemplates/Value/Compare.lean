import TagTemplates.Value.Basic

/-!
# Comparing values

The comparisons of the template language.  Two values of different kinds are seldom equal: nil
equals `false`, every boolean equals the values of its own truth, and the literals `empty` and
`blank` equal the values that are empty or blank.
-/

namespace TagTemplates.Value

/-- Whether a scalar equals a value that is neither a scalar nor a literal question. -/
def equalsOther (s : Scalar) (other : Value) : Bool :=
  match s with
  | .bool b => if other.isNil then !b else b
  | _ => false

mutual

/-- Whether two values are equal for a template. -/
def equal : Value → Value → Bool
  | list as, list bs => equalItems as bs
  | object as, object bs => as.length == bs.length && equalEntries as bs
  | nil, nil => true
  | quality q, v => v.has q
  | v, quality q => v.has q
  | scalar a, scalar b => a.equal b
  | scalar a, v => equalsOther a v
  | v, scalar b => equalsOther b v
  | _, _ => false

def equalItems : List Value → List Value → Bool
  | [], [] => true
  | a :: as, b :: bs => equal a b && equalItems as bs
  | _, _ => false

/-- Whether every entry on the left has an equal entry on the right. -/
def equalEntries : List (String × Value) → List (String × Value) → Bool
  | [], _ => true
  | (key, a) :: rest, bs =>
    (match valueAt? key bs with
      | some b => equal a b
      | none => false) && equalEntries rest bs

end

mutual

/-- The order of two values; only scalars, lists and objects have one. -/
def compare? : Value → Value → Option Ordering
  | scalar a, scalar b => a.compare? b
  | list as, list bs => compareItems as bs
  | object as, object bs => compareEntries as bs
  | _, _ => none

def compareItems : List Value → List Value → Option Ordering
  | [], [] => some .eq
  | [], _ => some .lt
  | _, [] => some .gt
  | a :: as, b :: bs =>
    match compare? a b with
    | some .eq => compareItems as bs
    | other => other

def compareEntries : List (String × Value) → List (String × Value) → Option Ordering
  | [], [] => some .eq
  | [], _ => some .lt
  | _, [] => some .gt
  | (k, a) :: as, (l, b) :: bs =>
    match compare k l with
    | .eq =>
      match compare? a b with
      | some .eq => compareEntries as bs
      | other => other
    | other => some other

end

/-- Whether a value contains another: a text a piece of text, an object a key, a list an item.
`none` for a value that can contain nothing. -/
def contains? (v part : Value) : Option Bool :=
  match v with
  | scalar s => some (Text.occursIn part.text.toList s.text.toList)
  | object entries =>
    match part with
    | scalar key => some (valueAt? key.text entries).isSome
    | _ => some false
  | list items => some (items.any fun item => equal item part)
  | _ => none

end TagTemplates.Value
