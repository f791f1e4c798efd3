import TagTemplates.Schema.Basic
import TagTemplates.Schema.Error

/-!
# The registry

The schemas that tags are resolved against, in the order in which they were registered.  A schema
is registered at most once, but two schemas may share a name; a name then means the one registered
first.

Schemas can be registered for a while: `scope` adds those that are not there yet, `release` takes
away what a scope added, and `withTemporary` runs a body between the two.  However the body ends,
what the scope added is gone afterwards, and nothing else is.
-/

namespace TagTemplates

/-- The registered schemas. -/
structure Registry where
  schemas : List Schema
  deriving DecidableEq

namespace Registry

/-- No schema is registered. -/
def empty : Registry := ⟨[]⟩

instance : Inhabited Registry := ⟨empty⟩

def contains (registry : Registry) (schema : Schema) : Bool := registry.schemas.contains schema

def size (registry : Registry) : Nat := registry.schemas.length

def isEmpty (registry : Registry) : Bool := registry.schemas.isEmpty

/-- The first schema of a name, up to case. -/
def lookup? (registry : Registry) (name : String) : Option Schema :=
  registry.schemas.find? fun schema => schema.hasName name

/-- The folded names of the registered schemas, sorted, each once. -/
def names (registry : Registry) : List String :=
  Text.sortedOnce (registry.schemas.map Schema.key)

/-- Register a schema, unless it is registered. -/
def register (registry : Registry) (schema : Schema) : Registry :=
  if registry.contains schema then registry else ⟨registry.schemas ++ [schema]⟩

/-- Register schemas one after another. -/
def registerAll (registry : Registry) (schemas : List Schema) : Registry :=
  schemas.foldl register registry

/-- Remove a schema. -/
def erase (registry : Registry) (schema : Schema) : Registry := ⟨registry.schemas.erase schema⟩

/-- Remove a schema that is registered. -/
def unregister (registry : Registry) (schema : Schema) : Except SchemaError Registry :=
  if registry.contains schema then .ok (registry.erase schema)
  else .error (.notRegistered schema.name)

/-! ## Temporary schemas -/

/-- Register schemas for a while: the ones that were not registered before, and the registry with
them. -/
def scope (registry : Registry) : List Schema → List Schema × Registry
  | [] => ([], registry)
  | schema :: rest =>
    if registry.contains schema then registry.scope rest
    else
      let (added, inner) := (registry.register schema).scope rest
      (schema :: added, inner)

/-- Remove what a scope added; some of it may be gone. -/
def release (registry : Registry) (added : List Schema) : Registry := added.foldl erase registry

/-- Run a body with some schemas registered, and remove afterwards those that this added. -/
def withTemporary (registry : Registry) (schemas : List Schema) (body : Registry → α × Registry) :
    α × Registry :=
  let (added, inner) := registry.scope schemas
  let (answer, after) := body inner
  (answer, after.release added)

end Registry

end TagTemplates
