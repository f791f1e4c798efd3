import TagTemplates.Html.Builder
import TagTemplates.Pattern.Reader
import TagTemplates.Table.RowSpans
import TagTemplates.Template.Error

/-!
# Looping table rows

A table loop repeats the rows of a table once per item of a list.  The rows are those with a cell
whose text matches a marker: the first such row of the document, and the rows next to it that match
too.  The text itself is not changed otherwise: an opening tag goes in front of the first row and a
closing tag behind the last one.

The rows of the parsed document and the row tags of the text have to agree in number, or else the
text stays as it is.

* `Row.ofTrees` lists the rows of a document.
* `wrapRows` puts the tags into a text, given its rows.
* `loopRows` applies loops one after another.
-/

namespace TagTemplates

/-- A loop over the rows of a table. -/
structure TableLoop where
  /-- What the text of a cell has to match. -/
  marker : Pattern
  /-- The name of an item. -/
  iterator : String
  /-- What the loop goes over. -/
  iterable : String

namespace TableLoop

/-- The pattern of an output that begins with a name. -/
def markerOf (iterator : String) : Pattern :=
  let opening := Pattern.literal ['{', '{']
  let hyphen := Pattern.optional (Pattern.literal ['-'])
  let rest := Pattern.seq (Pattern.literal iterator.toList) (.check .wordBoundary)
  .seq opening (.seq hyphen (.seq (.star (.one .space)) rest))

/-- The loop over the rows that output a name or something below it. -/
def forIterator (iterator iterable : String) : TableLoop :=
  ⟨markerOf iterator, iterator, iterable⟩

/-- The loop over the rows that match a written pattern. -/
def make? (marker iterator iterable : String) : Option TableLoop :=
  (Pattern.read? marker).map (⟨·, iterator, iterable⟩)

/-- The loop that `ITERATOR=ITERABLE` stands for: both names are trimmed, and neither is empty. -/
def ofSpec? (spec : String) : Option TableLoop :=
  match Text.cutAt? '=' spec.toList with
  | some (before, after) =>
    let iterator := Text.trim before
    let iterable := Text.trim after
    if iterator.isEmpty || iterable.isEmpty then none
    else some (forIterator (String.ofList iterator) (String.ofList iterable))
  | none => none

/-- The tag in front of the rows. -/
def openingTag (loop : TableLoop) : List Char :=
  ("\x7b% for " ++ loop.iterator ++ " in " ++ loop.iterable ++ " %\x7d").toList

/-- The tag behind the rows. -/
def closingTag : List Char := "\x7b% endfor %\x7d".toList

end TableLoop

/-! ## The rows of a document -/

/-- A row of a document, as far as a loop looks at it. -/
structure Row where
  /-- Whether one of its cells matches. -/
  isMarked : Bool
  /-- The number of rows inside of it. -/
  inner : Nat
  /-- Whether the next element beside it is a row. -/
  isFollowed : Bool
  deriving DecidableEq, Repr

namespace Row

open Html

/-- Whether the text of a cell matches; a cell with a table inside does not count. -/
def cellMatches (marker : Pattern) : Tree → Bool
  | .element "td" children =>
    Tree.countIn "table" children == 0 && marker.isIn (Text.trim (Tree.contentOf children))
  | _ => false

/-- Whether the first element among nodes is a row. -/
def beginWithRow : List Tree → Bool
  | [] => false
  | .element name _ :: _ => name == "tr"
  | _ :: rest => beginWithRow rest

mutual

/-- The rows in a node and below it, in the order of their beginnings, given the nodes behind it. -/
def ofTree (marker : Pattern) (behind : List Tree) : Tree → List Row
  | .element name children =>
    let inner := ofTrees marker children
    if name == "tr" then
      ⟨children.any (cellMatches marker), inner.length, beginWithRow behind⟩ :: inner
    else inner
  | _ => []

/-- The rows in nodes and below them. -/
def ofTrees (marker : Pattern) : List Tree → List Row
  | [] => []
  | tree :: rest => ofTree marker rest tree ++ ofTrees marker rest

end

end Row

/-! ## Wrapping rows -/

/-- The text of a span. -/
def slice (text : List Char) (start stop : Nat) : List Char := (text.take stop).drop start

/-- The number of the last row of the run that begins with the given row, with a bound on the number
of rows. -/
def lastOfRun (text : List Char) (rows : List Row) (spans : List Span) :
    Nat → Nat → Except Abort Nat
  | 0, index => .ok index
  | fuel + 1, index =>
    match rows[index]?, spans[index]? with
    | some row, some span =>
      let next := index + 1 + row.inner
      match row.isFollowed, rows[next]?, spans[next]? with
      | true, some nextRow, some nextSpan =>
        if nextSpan.start < span.stop then .error .crossedRows
        else if (Text.trim (slice text span.stop nextSpan.start)).isEmpty && nextRow.isMarked then
          lastOfRun text rows spans fuel next
        else .ok index
      | _, _, _ => .ok index
    | _, _ => .ok index

/-- Put the tags of a loop around the first run of marked rows. -/
def wrapRows (loop : TableLoop) (rows : List Row) (text : List Char) :
    Except Abort (List Char) :=
  match rows.findIdx? (·.isMarked), rowSpans text with
  | some first, some spans =>
    if spans.length == rows.length then
      match lastOfRun text rows spans rows.length first with
      | .error e => .error e
      | .ok last =>
        match spans[first]?, spans[last]? with
        | some firstSpan, some lastSpan =>
          .ok (text.take firstSpan.start ++ loop.openingTag ++
            slice text firstSpan.start lastSpan.stop ++ TableLoop.closingTag ++
            text.drop lastSpan.stop)
        | _, _ => .ok text
    else .ok text
  | _, _ => .ok text

/-- Apply a loop to a text. -/
def loopText (loop : TableLoop) (text : List Char) : Except Abort (List Char) :=
  wrapRows loop (Row.ofTrees loop.marker (Html.parse text)) text

/-- Apply loops to a text one after another. -/
def loopRows (loops : List TableLoop) (text : List Char) : Except Abort (List Char) :=
  loops.foldlM (fun text loop => loopText loop text) text

end TagTemplates
