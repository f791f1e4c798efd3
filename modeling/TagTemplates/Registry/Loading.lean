import TagTemplates.Registry.Basic
import TagTemplates.Schema.Loading

/-!
# Registering definitions

The schemas of a folder are loaded under tokens that no registered schema has, so each of them is a
schema of its own, and registered in the order of their files.  When loading has to be strict and
fails, nothing is registered.
-/

namespace TagTemplates

namespace Registry

/-- A token that is larger than that of every registered schema. -/
def freshToken (registry : Registry) : Nat :=
  registry.schemas.foldl (fun n schema => max n (schema.token + 1)) 0

/-- Load the schemas at a path and register them, leaving out what does not load. -/
def load (registry : Registry) (token : Nat) (disk : Disk) (path : String) :
    List Schema × Registry :=
  let schemas := TagTemplates.load token disk path
  (schemas, registry.registerAll schemas)

/-- Load the schemas at a path and register them, if all of them load. -/
def loadStrict (registry : Registry) (token : Nat) (disk : Disk) (path : String) :
    Except SchemaError (List Schema × Registry) :=
  (TagTemplates.loadStrict token disk path).map fun schemas =>
    (schemas, registry.registerAll schemas)

end Registry

end TagTemplates
