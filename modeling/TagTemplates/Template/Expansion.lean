import TagTemplates.Template.Segment
import TagTemplates.Template.Fallback

/-!
# Expanding tags

Every tag of a template becomes an output of the template engine: a look-up of a path with the
fallback as its default, or the fallback alone when the tag is known to name nothing.  The fallback
is always that of the tag as written, whatever path is looked up in its place.

* `Expansion.write` is the text of one expanded tag.
* `expandWith` expands a template, a `screen` deciding for each tag.
* `expand` looks every tag up as it is.
-/

namespace TagTemplates

/-- The name of the filter that supplies the default of a look-up. -/
def fallbackFilter : String := "fallback"

/-- How a tag is expanded. -/
inductive Expansion where
  /-- Look this path up, with the fallback as default. -/
  | lookup (path : Path)
  /-- The tag names nothing: only the fallback is left. -/
  | unresolved
  deriving DecidableEq, Repr

/-- The text of an expanded tag whose fallback is written as `literal`. -/
def Expansion.write (literal : List Char) : Expansion → List Char
  | lookup path =>
    '{' :: '{' :: path.expression ++ " | ".toList ++ fallbackFilter.toList ++ ": ".toList
      ++ literal ++ ['}', '}']
  | unresolved => '{' :: '{' :: ' ' :: literal ++ [' ', '}', '}']

/-- Expand one segment. -/
def expandSegment (fallback : Fallback) (screen : Path → Expansion) :
    Segment → Except TemplateError (List Char)
  | .text chars => .ok chars
  | .tag path _ =>
    match quoteLiteral (fallback.resolve path) with
    | .error e => .error e
    | .ok literal => .ok ((screen path).write literal)

/-- Expand segments in order; the first one that cannot be expanded decides the error. -/
def expandSegments (fallback : Fallback) (screen : Path → Expansion) :
    List Segment → Except TemplateError (List Char)
  | [] => .ok []
  | s :: rest =>
    match expandSegment fallback screen s with
    | .error e => .error e
    | .ok first =>
      match expandSegments fallback screen rest with
      | .error e => .error e
      | .ok more => .ok (first ++ more)

/-- Expand every tag of a template as `screen` decides. -/
def expandWith (fallback : Fallback) (screen : Path → Expansion) (text : List Char) :
    Except TemplateError (List Char) :=
  match scan text with
  | .error e => .error (.tag e)
  | .ok segments => expandSegments fallback screen segments

/-- Expand every tag of a template to a look-up of its own path. -/
def expand (fallback : Fallback) (text : List Char) : Except TemplateError (List Char) :=
  expandWith fallback .lookup text

end TagTemplates
