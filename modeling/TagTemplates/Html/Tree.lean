/-!
# Document trees

What a document becomes when it is parsed: elements with children, text, and comments.
-/

namespace TagTemplates.Html

/-- A node of a document. -/
inductive Tree where
  | text (chars : List Char)
  | comment
  | element (name : String) (children : List Tree)
  deriving Inhabited

namespace Tree

mutual

/-- The text of a node: that of everything in it. -/
def content : Tree → List Char
  | text chars => chars
  | comment => []
  | element _ children => contentOf children

/-- The text of nodes. -/
def contentOf : List Tree → List Char
  | [] => []
  | t :: ts => t.content ++ contentOf ts

end

mutual

/-- How many elements of a name there are in a node and below it. -/
def count (name : String) : Tree → Nat
  | text _ => 0
  | comment => 0
  | element n children => (if n == name then 1 else 0) + countIn name children

/-- How many elements of a name there are in nodes and below them. -/
def countIn (name : String) : List Tree → Nat
  | [] => 0
  | t :: ts => t.count name + countIn name ts

end

end Tree

end TagTemplates.Html
