import TagTemplates.Liquid.Library
import TagTemplates.Text.Case

/-!
# Filters

A filter turns a value into a value, with values as arguments.  `Filter` is a filter with its
arguments in place; `Filter.ofCall?` accepts a call by its name and the number of its arguments, and
`Filter.apply` says what each does, `none` where the input or an argument is of the wrong type.

The filters of `Filter.make?` are the core of the language.  Every other filter is `foreign`: it
comes from the library, and a call that the library does not take either is refused.

`fallback` is the filter that puts a looked-up value into a document: the default for nil, a scalar
as it is, and the final text of everything else.
-/

namespace TagTemplates.Liquid

/-- A filter; `α` is what stands for its arguments. -/
inductive Filter (α : Type) where
  | upcase
  | downcase
  | capitalize
  | strip
  | size
  | first
  | last
  | append (suffix : α)
  | prepend (start : α)
  | join (separator : Option α)
  | split (separator : α)
  | replace (piece : α) (image : Option α)
  | default (value : α)
  | plus (operand : α)
  | minus (operand : α)
  | times (operand : α)
  | fallback (value : Option α)
  /-- A filter of the library, by what it does. -/
  | foreign (act : Value → List Value → Option Value) (arguments : List α)

namespace Filter

/-- The arguments of a call, when none of them is given by name. -/
def positional? (arguments : List Argument) : Option (List Expression) :=
  if arguments.all (·.name.isNone) then some (arguments.map (·.value)) else none

/-- The filter of the core with a name and arguments. -/
def make? (name : String) (arguments : List Expression) : Option (Filter Expression) :=
  match name, arguments with
  | "upcase", [] => some upcase
  | "downcase", [] => some downcase
  | "capitalize", [] => some capitalize
  | "strip", [] => some strip
  | "size", [] => some size
  | "first", [] => some first
  | "last", [] => some last
  | "append", [a] => some (append a)
  | "prepend", [a] => some (prepend a)
  | "join", [] => some (join none)
  | "join", [a] => some (join (some a))
  | "split", [a] => some (split a)
  | "replace", [a] => some (replace a none)
  | "replace", [a, b] => some (replace a (some b))
  | "default", [a] => some (default a)
  | "plus", [a] => some (plus a)
  | "minus", [a] => some (minus a)
  | "times", [a] => some (times a)
  | "fallback", [] => some (fallback none)
  | "fallback", [a] => some (fallback (some a))
  | _, _ => none

/-- The filter of the library that a call asks for. -/
def foreign? [Library] (call : Call) : Option (Filter Expression) :=
  (Library.filter? call.name (call.arguments.map (·.name))).map
    fun act => foreign act (call.arguments.map (·.value))

/-- The filter of a call as it is written: one of the core, or else one of the library. -/
def ofCall? [Library] (call : Call) : Option (Filter Expression) :=
  (positional? call.arguments).bind (make? call.name) <|> foreign? call

/-- Evaluate the arguments of a filter. -/
def evaluate (f : α → Option β) : Filter α → Option (Filter β)
  | upcase => some upcase
  | downcase => some downcase
  | capitalize => some capitalize
  | strip => some strip
  | size => some size
  | first => some first
  | last => some last
  | append a => (f a).map append
  | prepend a => (f a).map prepend
  | join none => some (join none)
  | join (some a) => (f a).map fun b => join (some b)
  | split a => (f a).map split
  | replace a none => (f a).map fun b => replace b none
  | replace a (some c) => do return replace (← f a) (some (← f c))
  | default a => (f a).map default
  | plus a => (f a).map plus
  | minus a => (f a).map minus
  | times a => (f a).map times
  | fallback none => some (fallback none)
  | fallback (some a) => (f a).map fun b => fallback (some b)
  | foreign act arguments => (arguments.mapM f).map (foreign act)

/-! ## What filters do -/

/-- Apply a function of texts to the text of a value. -/
def onText (f : List Char → List Char) (v : Value) : Value :=
  .ofText (String.ofList (f v.text.toList))

/-- The number of bytes, items or entries of a value. -/
def sizeOf : Value → Nat
  | .scalar s => s.size
  | .list items => items.length
  | .object entries => entries.length
  | _ => 0

/-- One character or item of a value. -/
def pick (ofChars : List Char → Option Char) (ofItems : List Value → Option Value) :
    Value → Option Value
  | .scalar s =>
    some (.ofText (String.ofList (match ofChars s.text.toList with
      | some c => [c]
      | none => [])))
  | .list items => some ((ofItems items).getD .nil)
  | _ => none

/-- Cut a text into the pieces between the occurrences of a separator; the empty separator stands
between any two characters and at both ends. -/
def pieces (separator text : List Char) : List (List Char) :=
  if separator.isEmpty then [] :: text.map (fun c => [c]) ++ [[]]
  else Text.splitAll separator [] text

/-- Replace the occurrences of a piece of text; the empty piece occurs between any two characters
and at both ends. -/
def replaceText (piece image text : List Char) : List Char :=
  if piece.isEmpty then Text.interleave image text else Text.replaceAll piece image text

/-- Calculate with whole numbers when both sides are, and with fractional numbers otherwise. -/
def calculate (onWhole : Int → Int → Int) (onFraction : Float → Float → Float) (a b : Value) :
    Option Value :=
  match a.scalar?, b.scalar? with
  | some x, some y =>
    match x.whole?, y.whole? with
    | some i, some j => some (.scalar (.whole (Number.wrap (onWhole i j))))
    | _, _ =>
      match x.fractional?, y.fractional? with
      | some i, some j => some (.scalar (.fractional (.ofFloat (onFraction i j))))
      | _, _ => none
  | _, _ => none

/-- What a filter makes of a value, given the name of the display field. -/
def apply (displayKey : String) (v : Value) : Filter Value → Option Value
  | upcase => some (onText Text.upper v)
  | downcase => some (onText Text.lower v)
  | capitalize => some (onText Text.capitalize v)
  | strip => some (onText Text.trim v)
  | size => some (.scalar (.whole (sizeOf v)))
  | first => pick List.head? List.head? v
  | last => pick List.getLast? List.getLast? v
  | append a => some (.ofText (v.text ++ a.text))
  | prepend a => some (.ofText (a.text ++ v.text))
  | join separator =>
    match v with
    | .list items =>
      some (.ofText (Text.join ((separator.map Value.text).getD " ") (items.map Value.text)))
    | _ => none
  | split separator =>
    let text := v.text.toList
    some (.list (if text.isEmpty then []
      else (pieces separator.text.toList text).map fun p => .ofText (String.ofList p)))
  | replace piece image =>
    some (onText (replaceText piece.text.toList ((image.map Value.text).getD "").toList) v)
  | default value => some (if v.has .replaceable then value else v)
  | plus operand => calculate (· + ·) (· + ·) v operand
  | minus operand => calculate (· - ·) (· - ·) v operand
  | times operand => calculate (· * ·) (· * ·) v operand
  | fallback value =>
    match v with
    | .nil => some (.ofText ((value.map Value.text).getD ""))
    | .scalar s => some (.scalar s)
    | other => some (.ofText (other.finalText displayKey))
  | foreign act arguments => act v arguments

end Filter

/-- An expression with the filters it goes through. -/
structure Chain where
  entry : Expression
  filters : List (Filter Expression)

/-- The chain of calls as they are written; `none` when neither the core nor the library has one of
the filters. -/
def Chain.ofCalls? [Library] (calls : Calls) : Option Chain :=
  (calls.filters.mapM Filter.ofCall?).map (⟨calls.entry, ·⟩)

end TagTemplates.Liquid
