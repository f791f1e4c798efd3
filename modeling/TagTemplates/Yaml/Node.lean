import TagTemplates.Datum
import TagTemplates.Json.Reader

/-!
# YAML values

The content of a YAML document.  A plain scalar has no type of its own: where a text is wanted it is
that text, and elsewhere its form decides (`Node.ofPlain`).  A tag can settle the type of a scalar; a
tag that a document makes up itself leaves a value without a typed reading.

* `Node.toDatum?` is the typed reading of a value.
* `Node.text?`, `Node.optionalText?`, `Node.items?` and `Node.entries?` are what a value is where a
  text, a text or nothing, a list or a map is wanted.
-/

namespace TagTemplates.Yaml

/-- How the type of a scalar is found. -/
inductive ScalarForm where
  /-- By its form. -/
  | plain
  /-- It is a text. -/
  | text
  /-- By a tag that asks for the type. -/
  | null
  | bool
  | whole
  | fractional
  /-- By a tag that no reader knows. -/
  | foreign
  deriving DecidableEq, Repr

/-- A value of a YAML document. -/
inductive Node where
  | scalar (text : String) (form : ScalarForm)
  | list (isForeign : Bool) (items : List Node)
  | map (isForeign : Bool) (entries : List (Node × Node))
  /-- A reference to a collection inside of that collection. -/
  | cycle
  deriving Inhabited

/-! ## The forms of plain scalars -/

def isNullWord (s : String) : Bool := ["null", "Null", "NULL", "~"].contains s

def boolWord? (s : String) : Option Bool :=
  if ["true", "True", "TRUE"].contains s then some true
  else if ["false", "False", "FALSE"].contains s then some false
  else none

/-- Digits that begin with a needless zero, and are a text therefore. -/
def hasNeedlessZero (cs : List Char) : Bool :=
  let digits := match cs with
    | '-' :: rest => rest
    | '+' :: rest => rest
    | rest => rest
  1 < digits.length && digits.head? == some '0' && digits.all Char.isDigit

/-- The value of digits in a base up to sixteen. -/
def readBase (base : Nat) (cs : List Char) : Option Nat :=
  if cs.isEmpty then none
  else cs.foldlM (fun n c => do
    let digit ← Json.hexValue? c
    if digit < base then some (base * n + digit) else none) 0

/-- Digits without a sign: decimal ones, or those of another base behind its mark. -/
def readMagnitude : List Char → Option Nat
  | '0' :: 'x' :: rest => readBase 16 rest
  | '0' :: 'o' :: rest => readBase 8 rest
  | '0' :: 'b' :: rest => readBase 2 rest
  | cs => readBase 10 cs

/-- The number of words of 128 bits. -/
def longCount : Nat := 340282366920938463463374607431768211456

/-- The number of words of 128 bits without their sign. -/
def longSignedLimit : Nat := 170141183460469231731687303715884105728

/-- The whole number that a text is, if it has at most 128 bits. -/
def wholeWord? (s : String) : Option Int :=
  let cs := s.toList
  if hasNeedlessZero cs then none
  else
    match cs with
    | '-' :: rest => do
      let n ← readMagnitude rest
      if n ≤ longSignedLimit then some (-(n : Int)) else none
    | _ => do
      let n ← readMagnitude (if cs.head? == some '+' then cs.drop 1 else cs)
      if n < longCount then some n else none

/-- The fractional number that a text is. -/
def fractionalWord? (s : String) : Option Number.Binary64 :=
  let unsigned := match s.toList with
    | '+' :: rest => rest
    | rest => rest
  let word := String.ofList unsigned
  if [".inf", ".Inf", ".INF"].contains word then some (.ofFloat (1 / 0))
  else if ["-.inf", "-.Inf", "-.INF"].contains s then some (.ofFloat (-(1 / 0)))
  else if [".nan", ".NaN", ".NAN"].contains s then some (.ofFloat (0 / 0))
  else if s.toList.head? == some '+' && Text.beginsIn (fun c => c == '+' || c == '-') unsigned then
    none
  else (Number.Binary64.read? unsigned).filter (·.exponentField != 2047)

/-- What a plain scalar is where any type is wanted. -/
def ofPlain (s : String) : Datum :=
  if s.isEmpty || isNullWord s then .null
  else
    match boolWord? s, wholeWord? s with
    | some b, _ => .bool b
    | none, some n => .whole n
    | none, none =>
      match if hasNeedlessZero s.toList then none else fractionalWord? s with
      | some x => .fractional x
      | none => .text s

namespace Node

/-- The empty scalar, which stands where nothing is written. -/
def empty : Node := scalar "" .plain

/-- The typed reading of a scalar. -/
def scalarDatum? (text : String) : ScalarForm → Option Datum
  | .plain => some (ofPlain text)
  | .text => some (.text text)
  | .null => if isNullWord text then some .null else none
  | .bool => (boolWord? text).map .bool
  | .whole => (wholeWord? text).map .whole
  | .fractional => (fractionalWord? text).map .fractional
  | .foreign => none

mutual

/-- The typed reading of a value. -/
def toDatum? : Node → Option Datum
  | scalar text form => scalarDatum? text form
  | list isForeign items => do
    let items ← toItems? items
    if isForeign then none else some (.list items)
  | map isForeign entries => do
    let entries ← toEntries? entries
    if isForeign then none else some (.map entries)
  | cycle => none

def toItems? : List Node → Option (List Datum)
  | [] => some []
  | item :: items => do return (← item.toDatum?) :: (← toItems? items)

def toEntries? : List (Node × Node) → Option (List (Datum × Datum))
  | [] => some []
  | (key, value) :: entries => do
    return (← key.toDatum?, ← value.toDatum?) :: (← toEntries? entries)

end

/-- A text, whatever a scalar looks like. -/
def text? : Node → Option String
  | scalar text _ => some text
  | _ => none

/-- A text that may be missing: what looks like null is no text. -/
def optionalText? : Node → Option (Option String)
  | scalar text form =>
    match form with
    | .plain => some (if text.isEmpty || isNullWord text then none else some text)
    | .null => if isNullWord text then some none else none
    | _ => some (some text)
  | _ => none

/-- A list; the empty scalar is one without items. -/
def items? : Node → Option (List Node)
  | list _ items => some items
  | scalar "" .plain => some []
  | _ => none

/-- A map whose keys are texts; the empty scalar is one without entries. -/
def entries? : Node → Option (List (String × Node))
  | map _ entries => entries.mapM fun (key, value) => key.text?.map (·, value)
  | scalar "" .plain => some []
  | _ => none

mutual

/-- The number of collections around the innermost value. -/
def depth : Node → Nat
  | list _ items => depthOfItems items + 1
  | map _ entries => depthOfEntries entries + 1
  | _ => 0

def depthOfItems : List Node → Nat
  | [] => 0
  | item :: items => max item.depth (depthOfItems items)

def depthOfEntries : List (Node × Node) → Nat
  | [] => 0
  | (key, value) :: entries => max (max key.depth value.depth) (depthOfEntries entries)

end

end Node

/-- The number of collections that may be open at once in a typed reading. -/
def maxDepth : Nat := 128

end TagTemplates.Yaml
