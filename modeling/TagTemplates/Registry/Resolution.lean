import TagTemplates.Registry.Basic
import TagTemplates.Tag.Path

/-!
# Resolving paths

A path resolves when each of its steps names something that a schema declares.  The walk starts at
the root schema and goes down through nested fields; it may end on a record, or on a plain or
template field, behind which nothing can follow.

A first step below the root that repeats the name of the root is skipped, unless the root declares
a field of this name: `user.user.name` means `user.name`.

* `Registry.step` takes one step.
* `Registry.walk` takes the steps below the root.
* `Registry.resolve` and `Registry.resolveTag` resolve a path given with its root apart or inside.
-/

namespace TagTemplates

/-- Why a path does not resolve. -/
inductive ResolveError where
  | unknownRoot (name : String)
  | indexedRoot (name : String)
  | unknownField (schema field : String)
  | indexNotAllowed (schema field : String)
  /-- Steps behind a field that has nothing below it. -/
  | trailingSteps (schema field : String)
  /-- A nested field that names a schema which is not registered. -/
  | unresolvedReference (field target : String)
  deriving DecidableEq, Repr

/-- The wording of an error. -/
def ResolveError.message : ResolveError → String
  | unknownRoot name => "no schema named '" ++ name ++ "' is registered"
  | indexedRoot name => "root '" ++ name ++ "' cannot be indexed"
  | unknownField schema field => "schema '" ++ schema ++ "' has no field '" ++ field ++ "'"
  | indexNotAllowed schema field =>
    "field '" ++ field ++ "' of schema '" ++ schema ++ "' is not a list and cannot be indexed"
  | trailingSteps schema field =>
    "field '" ++ field ++ "' of schema '" ++ schema ++ "' has nothing to continue into"
  | unresolvedReference field target =>
    "field '" ++ field ++ "' refers to unknown schema '" ++ target ++ "'"

/-- Where a walk stands or ends. -/
inductive Endpoint where
  | record (schema : Schema)
  /-- A plain or template field. -/
  | field (owner : Schema) (field : Field)
  deriving DecidableEq

namespace Endpoint

/-- The schema of the record that a walk ends on. -/
def schema? : Endpoint → Option Schema
  | record schema => some schema
  | field _ _ => none

/-- The schema whose field or record a walk ends on. -/
def owner : Endpoint → Schema
  | record schema => schema
  | field owner _ => owner

end Endpoint

/-- Where a single step leads. -/
inductive Landing where
  /-- Through a nested field, to the schema behind it. -/
  | nested (field : Field) (target : Schema)
  /-- To a field that ends every path. -/
  | terminal (field : Field)
  deriving DecidableEq

/-- A path that resolved. -/
structure Resolution where
  root : Schema
  /-- The steps below the root, without a skipped first one. -/
  steps : List Step
  endpoint : Endpoint
  /-- Whether a list was crossed without an index, with further steps behind it. -/
  throughList : Bool
  deriving DecidableEq

/-- The path that a resolution stands for, with the name of the root schema as its root. -/
def Resolution.canonical (r : Resolution) : Path := ⟨Step.make r.root.name, r.steps⟩

/-- Whether the first step below a root only repeats the root. -/
def skipsRootAlias (root : Schema) : List Step → Bool
  | [] => false
  | first :: _ =>
    first.index.isNone && root.hasName first.name && (root.field? first.name).isNone

/-- The steps below a root that remain to be taken. -/
def stepsBelow (root : Schema) (steps : List Step) : List Step :=
  if skipsRootAlias root steps then steps.drop 1 else steps

namespace Registry

/-- The root schema of a name. -/
def root (registry : Registry) (name : String) : Except ResolveError Schema :=
  match registry.lookup? name with
  | some schema => .ok schema
  | none => .error (.unknownRoot name)

/-- The schema behind a nested field. -/
def target (registry : Registry) (owner : Schema) (field : Field) : Except ResolveError Schema :=
  match field.kind.target? with
  | some (.direct schema) => .ok schema
  | some .self => .ok owner
  | some (.named name) =>
    match registry.lookup? name with
    | some schema => .ok schema
    | none => .error (.unresolvedReference field.name name)
  | none => .error (.unresolvedReference field.name field.kind.label)

/-- Take one step from a schema. -/
def step (registry : Registry) (current : Schema) (s : Step) : Except ResolveError Landing :=
  match current.field? s.name with
  | none => .error (.unknownField current.name s.name)
  | some field =>
    if s.index.isSome && !field.kind.isMany then
      .error (.indexNotAllowed current.name field.name)
    else if field.kind.isTerminal then .ok (.terminal field)
    else
      match registry.target current field with
      | .ok target => .ok (.nested field target)
      | .error e => .error e

/-- Take steps from where a walk stands, given whether it crossed a list without an index. -/
def walk (registry : Registry) (endpoint : Endpoint) (crossed : Bool) :
    List Step → Except ResolveError (Endpoint × Bool)
  | [] => .ok (endpoint, crossed)
  | s :: rest =>
    match endpoint with
    | .field owner field => .error (.trailingSteps owner.name field.name)
    | .record schema =>
      match registry.step schema s with
      | .error e => .error e
      | .ok (.nested field target) =>
        registry.walk (.record target)
          (crossed || (field.kind.isMany && s.index.isNone && !rest.isEmpty)) rest
      | .ok (.terminal field) => registry.walk (.field schema field) crossed rest

/-- Resolve steps below the root of a name. -/
def resolve (registry : Registry) (rootName : String) (steps : List Step) :
    Except ResolveError Resolution :=
  match registry.root rootName with
  | .error e => .error e
  | .ok root =>
    match registry.walk (.record root) false (stepsBelow root steps) with
    | .error e => .error e
    | .ok (endpoint, crossed) => .ok ⟨root, stepsBelow root steps, endpoint, crossed⟩

/-- Resolve a path whose first step names its root. -/
def resolveTag (registry : Registry) (path : Path) : Except ResolveError Resolution :=
  if path.root.index.isSome then .error (.indexedRoot path.root.name)
  else registry.resolve path.root.name path.rest

end Registry

end TagTemplates
