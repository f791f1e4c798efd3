import TagTemplates.Json.Basic
import TagTemplates.Value.Basic

/-!
# The data of a render

A render reads its data from a tree of nodes.  A record keeps its fields under folded names in the
order in which they were first put there, and it knows the name of the field that stands for the
whole record, its display.

Looking something up never fails: a field that is not there, an item out of range and anything
below a missing node are the missing node.

* `Node.field`, `Node.item` are the lenient lookups.
* `Node.text` is what a node shows: a record its display, a list what its items show.
* `Node.toValue` is the plain value of a node, with the folded names as keys.
-/

namespace TagTemplates

/-- The number of data as a scalar. -/
def Scalar.ofNumber : Number → Scalar
  | .whole i => .whole i
  | .fractional x => .fractional x

/-- A node of data. -/
inductive Node where
  /-- Absent or null. -/
  | missing
  | scalar (value : Scalar)
  | list (items : List Node)
  | record (displayKey : String) (fields : List (String × Node))
  deriving Inhabited

namespace Node

/-- A text as a node. -/
def ofText (s : String) : Node := scalar (.string s)

def isMissing : Node → Bool
  | missing => true
  | _ => false

/-- The name of the type of a node. -/
def typeName : Node → String
  | missing => "nil"
  | scalar s => s.typeName
  | list _ => "array"
  | record _ _ => "object"

/-! ## Fields -/

/-- Put a value under a key: a key that is there keeps its place. -/
def putField (key : String) (node : Node) : List (String × Node) → List (String × Node)
  | [] => [(key, node)]
  | (k, n) :: rest => if k = key then (k, node) :: rest else (k, n) :: putField key node rest

/-- The value under a key. -/
def fieldAt? (key : String) : List (String × Node) → Option Node
  | [] => none
  | (k, n) :: rest => if k = key then some n else fieldAt? key rest

@[simp] theorem fieldAt?_putField_self (key : String) (node : Node)
    (fields : List (String × Node)) : fieldAt? key (putField key node fields) = some node := by
  induction fields with
  | nil => simp [putField, fieldAt?]
  | cons e rest ih =>
    obtain ⟨k, n⟩ := e
    by_cases h : k = key <;> simp [putField, fieldAt?, h, ih]

theorem fieldAt?_putField_of_ne {key other : String} (h : other ≠ key) (node : Node)
    (fields : List (String × Node)) :
    fieldAt? other (putField key node fields) = fieldAt? other fields := by
  induction fields with
  | nil => simp [putField, fieldAt?, Ne.symm h]
  | cons e rest ih =>
    obtain ⟨k, n⟩ := e
    by_cases hk : k = key
    · subst hk
      simp [putField, fieldAt?, Ne.symm h]
    · simp [putField, fieldAt?, hk, ih]

/-- Put a value under a name, which is folded. -/
def insertField (name : String) (node : Node) (fields : List (String × Node)) :
    List (String × Node) :=
  putField (Text.fold name) node fields

/-- A record with the given fields, put there one after another. -/
def ofFields (displayKey : String) (fields : List (String × Node)) : Node :=
  record displayKey (fields.foldl (fun acc e => insertField e.1 e.2 acc) [])

/-! ## Nodes of data without a schema -/

mutual

/-- The node of a value of data.  Objects become records with the given display. -/
def ofJson (displayKey : String) : Json → Node
  | .null => missing
  | .bool b => scalar (.bool b)
  | .number n => scalar (.ofNumber n)
  | .string s => scalar (.string s)
  | .array items => list (ofItems displayKey items)
  | .object entries => ofFields displayKey (ofEntries displayKey entries)

def ofItems (displayKey : String) : List Json → List Node
  | [] => []
  | v :: vs => ofJson displayKey v :: ofItems displayKey vs

def ofEntries (displayKey : String) : List (String × Json) → List (String × Node)
  | [] => []
  | (key, v) :: rest => (key, ofJson displayKey v) :: ofEntries displayKey rest

end

/-! ## Lookups -/

/-- The field of a name; missing when there is none. -/
def field (name : String) : Node → Node
  | record _ fields => (fieldAt? (Text.fold name) fields).getD missing
  | _ => missing

/-- The item at an index, from the end when the index is negative; missing when there is none. -/
def item (index : Int) : Node → Node
  | list items => (Value.itemAt? items index).getD missing
  | _ => missing

/-- The part of a node that an index names.  Every name names a part of a record and of the missing
node; a list has its items, `first`, `last` and `size`, and a scalar only `size`. -/
def part? (n : Node) (index : Scalar) : Option Node :=
  match n with
  | list items =>
    match index.whole? with
    | some i => some (n.item i)
    | none =>
      match index.text with
      | "first" => some (n.item 0)
      | "last" => some (n.item (-1))
      | "size" => some (scalar (.whole items.length))
      | _ => none
  | scalar s => if index.text == "size" then some (scalar (.whole s.size)) else none
  | _ => some (n.field index.text)

/-- The node that a list of indices leads to. -/
def walk? (n : Node) : List Scalar → Option Node
  | [] => some n
  | index :: rest =>
    match n.part? index with
    | some part => part.walk? rest
    | none => none

/-! ## Texts -/

mutual

/-- What a node shows. -/
def text : Node → String
  | missing => ""
  | scalar s => s.text
  | list items => textOfItems items
  | record displayKey fields => textOfField (Text.fold displayKey) fields

def textOfItems : List Node → String
  | [] => ""
  | n :: ns => n.text ++ textOfItems ns

/-- What the field under a key shows. -/
def textOfField (key : String) : List (String × Node) → String
  | [] => ""
  | (k, n) :: rest => if k = key then n.text else textOfField key rest

end

/-- The text of a record is the text of its display field. -/
theorem textOfField_eq (key : String) (fields : List (String × Node)) :
    textOfField key fields = ((fieldAt? key fields).map text).getD "" := by
  induction fields with
  | nil => simp [textOfField, fieldAt?]
  | cons e rest ih =>
    obtain ⟨k, n⟩ := e
    by_cases h : k = key <;> simp [textOfField, fieldAt?, h, ih]

/-! ## Plain values -/

mutual

/-- The plain value of a node. -/
def toValue : Node → Value
  | missing => .nil
  | scalar s => .scalar s
  | list items => .list (toValues items)
  | record _ fields => .object (toEntries fields)

def toValues : List Node → List Value
  | [] => []
  | n :: ns => n.toValue :: toValues ns

def toEntries : List (String × Node) → List (String × Value)
  | [] => []
  | (key, n) :: rest => (key, n.toValue) :: toEntries rest

end

/-- The answer to a question about a node. -/
def has (q : Quality) : Node → Bool
  | missing => q != .truthy
  | scalar s => s.has q
  | list items => if q == .truthy then true else items.isEmpty
  | record _ fields => if q == .truthy then true else fields.isEmpty

/-- A node as it is written in a diagnosis. -/
def source (n : Node) : String := n.toValue.source

end Node

end TagTemplates
