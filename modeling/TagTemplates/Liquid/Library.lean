import TagTemplates.Liquid.Element

/-!
# Libraries of filters and tags

The language has a core, which the modules beside this one tell in full: the filters of `Filter`,
and the tags that assign, choose, repeat, capture, comment and quote.  An engine has more of both,
such as the filters `escape`, `truncate`, `date` and `map` or the tags `cycle`, `increment` and
`tablerow`.  They come from its library, and a `Library` is all that reading and rendering know of
it: which filters and tags there are, and what they do.

A filter of a library is a function of values, as every filter is.  A tag of a library is a
function of how far the render has come; it may have a body, which it renders as often as it likes,
with names bound around it.  Neither sees the data but through the values of its arguments and
through its body.

Whatever is said of all templates holds for every library.  A filter or a tag that neither the core
nor the library has is refused where a template is read.  `Library.bare` has nothing in it.  The
program that runs here has this library, so it refuses what only an engine with a larger one can
render; what is said of a single template or session is said of it too.
-/

namespace TagTemplates.Liquid

/-- What leaves a loop body early. -/
inductive Interrupt where
  /-- The loop ends. -/
  | leave
  /-- The next turn begins. -/
  | skip
  deriving DecidableEq, Repr

/-- How far a render has come. -/
structure Progress where
  output : String
  assigned : List (String × Value)
  interrupted : Option Interrupt
  /-- What the tags of a library keep for themselves, such as the turn of a `cycle`. -/
  registers : List (String × Value)

namespace Progress

/-- Nothing is printed yet. -/
def start : Progress := ⟨"", [], none, []⟩

/-- Print a text. -/
def print (s : String) (p : Progress) : Progress := { p with output := p.output ++ s }

/-- Give a name a value. -/
def assign (name : String) (value : Value) (p : Progress) : Progress :=
  { p with assigned := (name, value) :: p.assigned }

end Progress

/-- A tag of a library, with the words behind its name taken in. -/
structure ForeignTag where
  /-- The expressions whose values it is given; one that has no value is `none`. -/
  arguments : List Expression
  /-- The tag that closes its body, when it has one. -/
  close : Option String
  /-- What it does, with its body under the names that it binds; `none` where it fails. -/
  act : List (Option Value) → (List (String × Value) → Progress → Option Progress) → Progress →
    Option Progress

/-- The filters and tags of an engine beyond the core of the language. -/
class Library where
  /-- What the filter of a name makes of a value and its arguments.  The arguments are given by
  position or by name, and a filter may refuse to be called with just these. -/
  filter? : String → List (Option String) → Option (Value → List Value → Option Value)
  /-- The tag of a name, given the words behind it. -/
  tag? : String → List Token → Option ForeignTag

/-- The library with nothing in it. -/
instance Library.bare : Library where
  filter? _ _ := none
  tag? _ _ := none

end TagTemplates.Liquid
