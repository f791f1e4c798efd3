import TagTemplates.Json.Basic
import TagTemplates.Template.Error

/-!
# Sub-templates

Named pieces of text that are put in place of `{name}` before tags are read.  They are applied one
after another in the order in which their names were first given, by plain replacement; so the text
of one may hold tags, and the marker of another one that comes later.
-/

namespace TagTemplates

/-- An ordered mapping of names to texts, without a repeated name. -/
structure SubTemplates where
  entries : List (String × String)
  deriving DecidableEq, Repr

namespace SubTemplates

instance : Inhabited SubTemplates := ⟨⟨[]⟩⟩

def empty : SubTemplates := ⟨[]⟩

/-- Set the text of a name: at its place when the name is there, else at the end. -/
def insertEntry (name text : String) : List (String × String) → List (String × String)
  | [] => [(name, text)]
  | (n, t) :: rest =>
    if n = name then (n, text) :: rest else (n, t) :: insertEntry name text rest

def insert (subs : SubTemplates) (name text : String) : SubTemplates :=
  ⟨insertEntry name text subs.entries⟩

def ofList (pairs : List (String × String)) : SubTemplates :=
  pairs.foldl (fun subs p => subs.insert p.1 p.2) empty

/-- The text of a name. -/
def get? (subs : SubTemplates) (name : String) : Option String :=
  (subs.entries.find? fun e => e.1 == name).map (·.2)

def size (subs : SubTemplates) : Nat := subs.entries.length

/-- Sub-templates given as data: an object all of whose values are text. -/
def ofJson (value : Json) : Except TemplateError SubTemplates :=
  match value with
  | .object entries => go empty entries
  | other =>
    .error (.subTemplates ("expected a mapping of names to text, got " ++ other.typeName))
where
  go (subs : SubTemplates) : List (String × Json) → Except TemplateError SubTemplates
    | [] => .ok subs
    | (name, .string text) :: rest => go (subs.insert name text) rest
    | (name, other) :: _ =>
      .error (.subTemplates ("value for '" ++ name ++ "' must be text, got " ++ other.typeName))

/-- What stands in a template for the sub-template of a name. -/
def marker (name : String) : List Char := '{' :: name.toList ++ ['}']

/-- Put every sub-template in place of its marker, one after another. -/
def apply (subs : SubTemplates) (text : List Char) : List Char :=
  subs.entries.foldl (fun text e => Text.replaceAll (marker e.1) e.2.toList text) text

end SubTemplates

end TagTemplates
