import TagTemplates.Files.Tree
import TagTemplates.Schema.Definition

/-!
# Loading definitions

All definitions below a folder: the files with one of the two extensions of YAML, in the order of
their paths.  `load` leaves out the files that hold no schema, and `loadStrict` answers with the
error of the first one.
-/

namespace TagTemplates

/-- Whether a file is one of definitions, by its name. -/
def isDefinitionName (name : String) : Bool :=
  FilePath.extension? name == some "yaml" || FilePath.extension? name == some "yml"

/-- The paths of the definition files of a tree, in order, given the path of the tree. -/
def definitionFiles (tree : FileTree) (path : String) : List String :=
  let inner := (tree.files []).map fun parts =>
    (parts, if parts.isEmpty then path else FilePath.join path (FilePath.ofParts parts))
  let named := inner.filter fun file => isDefinitionName (FilePath.name file.2)
  (named.mergeSort fun a b => FilePath.le a.1 b.1).map (·.2)

/-- Read a file for a schema. -/
def readFor (disk : Disk) (path : String) : Except SchemaError String :=
  (disk.read path).mapError fun _ => .file

/-- The schema of a definition, whose files stand below a folder. -/
def Definition.buildIn (token : Nat) (disk : Disk) (folder : String) (definition : Definition) :
    Except SchemaError Schema :=
  definition.build token fun file => readFor disk (FilePath.join folder file)

/-- The schema of a definition file. -/
def loadFile (token : Nat) (disk : Disk) (path : String) : Except SchemaError Schema := do
  match Definition.ofYaml? (← readFor disk path) with
  | some definition => definition.buildIn token disk (FilePath.folder path)
  | none => throw (.definition path)

/-- The schemas of the definition files at a path, with tokens that count up from the given one. -/
def loadEach (token : Nat) (disk : Disk) (path : String) : List (Except SchemaError Schema) :=
  match disk.find? path with
  | .ok tree =>
    (definitionFiles tree path).mapIdx fun index file => loadFile (token + index) disk file
  | .error _ => []

/-- The schemas that can be loaded from a path. -/
def load (token : Nat) (disk : Disk) (path : String) : List Schema :=
  (loadEach token disk path).filterMap Except.toOption

/-- The schemas at a path, all of which have to load. -/
def loadStrict (token : Nat) (disk : Disk) (path : String) : Except SchemaError (List Schema) :=
  match disk.find? path with
  | .ok _ => (loadEach token disk path).mapM id
  | .error _ => .error .file

end TagTemplates
