import TagTemplates.Value.Scalar

/-!
# Plain values

The values that templates compute with.  An object lists its entries under exact keys.  Besides
the data there are two literals that stand for a question, `empty` and `blank`: a value equals one
of them when it answers the question with yes.

* `Value.text` is what a value prints as: a list prints its items one after another, an object its
  keys and values, and nothing else prints as nothing.
* `Value.finalText` is the text in its place in a document: an object shows its display entry, and a
  list shows the displays of its items.
-/

namespace TagTemplates

/-- A plain value. -/
inductive Value where
  | nil
  | scalar (value : Scalar)
  /-- A literal that stands for a question. -/
  | quality (question : Quality)
  | list (items : List Value)
  | object (entries : List (String × Value))
  deriving Inhabited

namespace Value

/-- A text as a value. -/
def ofText (s : String) : Value := scalar (.string s)

def isNil : Value → Bool
  | nil => true
  | _ => false

def scalar? : Value → Option Scalar
  | scalar s => some s
  | _ => none

/-- The name of the type of a value. -/
def typeName : Value → String
  | nil => "nil"
  | scalar s => s.typeName
  | quality .truthy => "truthy"
  | quality .replaceable => "default"
  | quality .empty => "empty"
  | quality .blank => "blank"
  | list _ => "array"
  | object _ => "object"

/-! ## Texts -/

mutual

/-- What a value prints as. -/
def text : Value → String
  | nil => ""
  | scalar s => s.text
  | quality _ => ""
  | list items => textOfItems items
  | object entries => textOfEntries entries

def textOfItems : List Value → String
  | [] => ""
  | v :: vs => v.text ++ textOfItems vs

def textOfEntries : List (String × Value) → String
  | [] => ""
  | (key, v) :: rest => key ++ v.text ++ textOfEntries rest

end

/-- The entry of an object under an exact key. -/
def valueAt? (key : String) (entries : List (String × Value)) : Option Value :=
  (entries.find? fun e => e.1 == key).map (·.2)

/-- What an item shows: an object its entry under the display key, everything else its own
text. -/
def displayText (displayKey : String) : Value → String
  | object entries =>
    match valueAt? displayKey entries with
    | some v => v.text
    | none => ""
  | v => v.text

/-- What a value shows in a document: a list the displays of its items, an object its display
entry. -/
def finalText (displayKey : String) : Value → String
  | list items => Text.concat (items.map (displayText displayKey))
  | v => displayText displayKey v

/-- A value as it is written in a diagnosis; items and entries print as they are. -/
def source : Value → String
  | nil => "nil"
  | scalar s => s.source
  | quality _ => ""
  | list items => "[" ++ Text.concat (items.map fun v => v.text ++ ", ") ++ "]"
  | object entries =>
    "\x7b" ++ Text.concat (entries.map fun e => "\"" ++ e.1 ++ "\": " ++ e.2.text ++ ", ") ++ "\x7d"

/-! ## Questions -/

/-- The answer to a question about a value. -/
def has (q : Quality) : Value → Bool
  | nil => q != .truthy
  | scalar s => s.has q
  | quality _ => q != .truthy
  | list items => if q == .truthy then true else items.isEmpty
  | object entries => if q == .truthy then true else entries.isEmpty

/-! ## Parts -/

/-- The item of a list at an index; a negative index counts from the end. -/
def itemAt? (items : List α) (index : Int) : Option α :=
  let position := if index < 0 then index + items.length else index
  if position < 0 then none else items[position.toNat]?

/-- The part of a value that an index names; `none` when there is no such part.  A list has its
items, `first`, `last` and `size`, an object its entries and `size`, a scalar only `size`. -/
def part? (v : Value) (index : Scalar) : Option Value :=
  match v with
  | list items =>
    match index.whole? with
    | some i => itemAt? items i
    | none =>
      match index.text with
      | "first" => items.head?
      | "last" => items.getLast?
      | "size" => some (scalar (.whole items.length))
      | _ => none
  | object entries =>
    match valueAt? index.text entries with
    | some part => some part
    | none => if index.text == "size" then some (scalar (.whole entries.length)) else none
  | scalar s => if index.text == "size" then some (scalar (.whole s.size)) else none
  | _ => none

/-- The value that a list of indices leads to. -/
def walk? (v : Value) : List Scalar → Option Value
  | [] => some v
  | index :: rest =>
    match v.part? index with
    | some part => part.walk? rest
    | none => none

end Value

end TagTemplates
