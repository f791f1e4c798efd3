import TagTemplates.Json.Basic
import TagTemplates.Registry.Resolution
import TagTemplates.Tag.Reader

/-!
# Completing tags

While an author types a tag, completion says whether the text so far can be rendered, how much of it
resolves, and what may come next.  The text is read leniently: what follows the last complete step
is ignored.

* `RootFilter` restricts the schemas that may be roots.
* `Registry.complete` is the completion of a text.
-/

namespace TagTemplates

/-- What may come behind a list. -/
def indexHint : String := ":1"

/-- Whether a text can be rendered as it is written. -/
inductive Status where
  | valid
  | invalid
  deriving DecidableEq, Repr

/-- The name of a status. -/
def Status.text : Status → String
  | valid => "VALID"
  | invalid => "INVALID"

/-- The status of a name. -/
def Status.ofText? : String → Option Status
  | "VALID" => some valid
  | "INVALID" => some invalid
  | _ => none

/-- A status that is given as data: its name, or an object with this name as its only key and
nothing under it. -/
def Status.ofJson? : Json → Option Status
  | .string name => ofText? name
  | .object [(name, .null)] => ofText? name
  | _ => none

/-- The completion of a text. -/
structure Completion where
  status : Status
  /-- What may come next, sorted and each once. -/
  options : List String
  /-- The source form of the steps that resolve. -/
  validFragment : String
  deriving DecidableEq, Repr

namespace Completion

/-- A completion from its options in any order and the steps that resolve. -/
def make (status : Status) (options : List String) (valid : List Step) : Completion :=
  ⟨status, Text.sortedOnce options, String.ofList (stepsSource valid)⟩

def isValid (c : Completion) : Bool := c.status == .valid

/-- A completion from its parts given as data. -/
def ofParts? (status options fragment : Json) : Option Completion := do
  return ⟨← Status.ofJson? status, ← (← options.array?).mapM Json.string?, ← fragment.string?⟩

/-- A completion that is given as data: an object with its parts, or their list. -/
def ofJson? (value : Json) : Option Completion :=
  match value with
  | .array [status, options, fragment] => ofParts? status options fragment
  | _ =>
    match value.get? "status", value.get? "options", value.get? "validFragment" with
    | some status, some options, some fragment => ofParts? status options fragment
    | _, _, _ => none

end Completion

/-- Which schemas may be roots; an empty `only` admits all of them. -/
structure RootFilter where
  only : List String
  exclude : List String
  deriving DecidableEq, Repr

namespace RootFilter

/-- Every schema may be a root. -/
def all : RootFilter := ⟨[], []⟩

instance : Inhabited RootFilter := ⟨all⟩

/-- The filter with the given names, which are folded. -/
def make (only exclude : List String) : RootFilter :=
  ⟨only.map Text.fold, exclude.map Text.fold⟩

/-- Whether a name passes. -/
def allows (filter : RootFilter) (name : String) : Bool :=
  (filter.only.isEmpty || filter.only.contains (Text.fold name)) &&
    !filter.exclude.contains (Text.fold name)

end RootFilter

namespace Registry

/-- The folded names of the schemas that may be roots, sorted. -/
def rootNames (registry : Registry) (filter : RootFilter) : List String :=
  registry.names.filter filter.allows

/-- Complete steps below a schema; `none` stands below a field that ends every path. -/
def completeSteps (registry : Registry) (current : Option Schema) (valid : List Step) :
    List Step → Completion
  | [] =>
    match current with
    | some schema =>
      .make (if schema.hasDisplay then .valid else .invalid) schema.fieldNames valid
    | none => .make .valid [] valid
  | s :: rest =>
    match current with
    | none => .make .invalid [] valid
    | some schema =>
      match registry.step schema s with
      | .ok (.nested field target) =>
        if field.kind.isMany && s.index.isNone && rest.isEmpty then
          .make .invalid [indexHint] valid
        else registry.completeSteps (some target) (valid ++ [s]) rest
      | .ok (.terminal _) => registry.completeSteps none (valid ++ [s]) rest
      | .error (.unknownField _ _) =>
        .make .invalid (schema.fieldNames.filter fun name => Text.startsWith name s.name) valid
      | .error _ => .make .invalid [] valid

/-- Complete steps that begin with a root. -/
def completePath (registry : Registry) (filter : RootFilter) (first : Step) (rest : List Step) :
    Completion :=
  let roots := registry.rootNames filter
  match registry.lookup? first.name, roots.contains first.name with
  | some root, true =>
    if first.index.isSome then .make .invalid [] []
    else if skipsRootAlias root rest then
      registry.completeSteps (some root) (first :: rest.take 1) (rest.drop 1)
    else registry.completeSteps (some root) [first] rest
  | _, _ =>
    if rest.isEmpty then
      .make .invalid (roots.filter fun name => Text.startsWith name first.name) []
    else .make .invalid [] []

/-- Complete a text. -/
def complete (registry : Registry) (filter : RootFilter) (fragment : List Char) : Completion :=
  let trimmed := Text.trim fragment
  if trimmed.isEmpty then .make .invalid (registry.rootNames filter) []
  else
    match readPartial trimmed with
    | [] => .make .invalid [] []
    | first :: rest => registry.completePath filter first rest

end Registry

end TagTemplates
