import TagTemplates.Text.Word

/-!
# Row spans

Where the rows of tables stand in a text, found without parsing it: a stack matches every closing
row tag with the latest opening one.  `rowSpans` is `none` when the tags do not match up.
-/

namespace TagTemplates

/-- A row tag in a text: from a place to the place behind it. -/
structure RowTag where
  isOpening : Bool
  start : Nat
  stop : Nat
  deriving DecidableEq, Repr

/-- A stretch of a text, from a place to the place behind it. -/
structure Span where
  start : Nat
  stop : Nat
  deriving DecidableEq, Repr

namespace RowTag

/-- The length of what follows the name in a tag, up to its closing bracket, when the name ends
there. -/
def tailLength? (cs : List Char) : Option Nat :=
  if cs.head?.any Text.isWordChar then none
  else
    let inside := cs.takeWhile (· != '>')
    if inside.length < cs.length then some (inside.length + 1) else none

/-- Read the name of a row and the rest of the tag: their length. -/
def nameLength? : List Char → Option Nat
  | t :: r :: rest =>
    if t.toLower == 't' && r.toLower == 'r' then (tailLength? rest).map (· + 2) else none
  | _ => none

/-- The row tag that begins at a place. -/
def read? (place : Nat) : List Char → Option RowTag
  | '<' :: '/' :: rest => (nameLength? rest).map fun n => ⟨false, place, place + 2 + n⟩
  | '<' :: rest => (nameLength? rest).map fun n => ⟨true, place, place + 1 + n⟩
  | _ => none

/-- The row tags of a text, from left to right.  The second argument is the number of characters
that belong to the last tag. -/
def scan (place : Nat) : Nat → List Char → List RowTag
  | _, [] => []
  | skip + 1, _ :: cs => scan (place + 1) skip cs
  | 0, c :: cs =>
    match read? place (c :: cs) with
    | some tag => tag :: scan (place + 1) (tag.stop - tag.start - 1) cs
    | none => scan (place + 1) 0 cs

/-- The row tags of a text. -/
def all (text : List Char) : List RowTag := scan 0 0 text

end RowTag

/-- Set where a span stops. -/
def closeSpan (index stop : Nat) (spans : List Span) : List Span :=
  spans.modify index fun span => { span with stop := stop }

/-- Match row tags.  The spans are listed in the order of their opening tags, and the numbers of the
open ones are kept with the latest first. -/
def matchTags (spans : List Span) : List Nat → List RowTag → Option (List Span)
  | openRows, [] => if openRows.isEmpty then some spans else none
  | openRows, tag :: rest =>
    if tag.isOpening then
      matchTags (spans ++ [⟨tag.start, tag.start⟩]) (spans.length :: openRows) rest
    else
      match openRows with
      | [] => none
      | row :: openRows => matchTags (closeSpan row tag.stop spans) openRows rest

/-- The spans of the rows of a text, in the order of their opening tags. -/
def rowSpans (text : List Char) : Option (List Span) := matchTags [] [] (RowTag.all text)

end TagTemplates
