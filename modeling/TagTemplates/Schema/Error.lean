/-!
# What can go wrong with schemas

Schemas that cannot be built, definitions that cannot be read, and files that cannot be.
-/

namespace TagTemplates

/-- Errors of building, loading and registering schemas. -/
inductive SchemaError where
  /-- Two fields of one name. -/
  | duplicateField (schema field : String)
  /-- A name that no tag can write. -/
  | invalidName (name : String)
  /-- A display field that is not declared. -/
  | unknownDisplay (schema field : String)
  | notRegistered (name : String)
  /-- A template field without a text. -/
  | missingTemplate (schema field : String)
  /-- A file that holds no definition, by its path. -/
  | definition (path : String)
  /-- A text that is no definition. -/
  | unreadable
  /-- A file or directory that cannot be read. -/
  | file
  deriving DecidableEq, Repr

/-- The wording of an error, without what a reader of files or documents says about it. -/
def SchemaError.message : SchemaError → String
  | duplicateField schema field => "duplicate field '" ++ field ++ "' in schema '" ++ schema ++ "'"
  | invalidName name =>
    "invalid name '" ++ name ++ "': names may only contain ASCII letters, digits and '_'"
  | unknownDisplay schema field =>
    "schema '" ++ schema ++ "' has no field named '" ++ field ++ "' to use as default display"
  | notRegistered name => "schema '" ++ name ++ "' is not registered"
  | missingTemplate schema field =>
    "template field '" ++ field ++ "' in schema '" ++ schema ++
      "' needs either \x60text\x60 or \x60file\x60"
  | definition path => "invalid schema definition " ++ path
  | unreadable => "YAML error"
  | file => "IO error"

end TagTemplates
