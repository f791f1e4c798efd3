import TagTemplates.Files.Tree
import TagTemplates.Schema.Draft
import TagTemplates.Settings.Variable
import TagTemplates.Text.Case
import TagTemplates.Toml.Document
import TagTemplates.Yaml.Document

/-!
# Settings

The settings of a run: the text for tags that do not resolve, the name of the display field, and the
folders of definitions.  They are collected from several sources, one after another: the defaults,
files, and the environment.  A source adds or replaces whole settings; what is not a setting is
ignored.  Only in the end a setting has to be of the right type.

* `Settings.load` looks for files of the four known names in the folder of the run.
* `Settings.loadFile` takes one file, whose name tells the format.
-/

namespace TagTemplates

/-- The settings of a run. -/
structure Settings where
  /-- The text for tags that do not resolve. -/
  fallback : String := ""
  /-- The name of the field under which records expose their display. -/
  displayField : String := defaultDisplayField
  /-- The folders of definitions. -/
  schemaFolders : List String := []
  deriving DecidableEq, Repr

/-- Why there are no settings. -/
inductive SettingsError where
  /-- A source is no document of its format, or a setting has the wrong type. -/
  | malformed
  /-- A file whose name tells no known format. -/
  | unknownFormat (path : String)
  deriving DecidableEq, Repr

/-- The wording of an error.  What a reader says about a document is not part of it. -/
def SettingsError.message : SettingsError → String
  | malformed => "Failed to parse configuration"
  | unknownFormat path => "Unsupported configuration file format: " ++ path

/-! ## Sources -/

/-- What a source says, the later entry of a name winning. -/
abbrev Source := List (String × Datum)

/-- The formats of settings files. -/
inductive Format where
  | toml
  | yaml
  | json
  deriving DecidableEq, Repr

namespace Format

/-- The format of the files with an extension. -/
def ofExtension? : String → Option Format
  | "toml" => some toml
  | "yaml" => some yaml
  | "yml" => some yaml
  | "json" => some json
  | _ => none

/-- The format of a file, by its name in any case. -/
def ofPath? (path : String) : Option Format :=
  ofExtension? (Text.fold ((FilePath.extension? (FilePath.name path)).getD ""))

/-- The entries of a map whose keys are texts. -/
def textEntries? (entries : List (Datum × Datum)) : Option Source :=
  entries.mapM fun entry => entry.1.text?.map (·, entry.2)

/-- What a YAML document says. -/
def yamlEntries? (node : Yaml.Node) : Option Source :=
  if Yaml.maxDepth < node.depth then none
  else do (← node.entries?).mapM fun entry => entry.2.toDatum?.map (entry.1, ·)

/-- What the text of a file says. -/
def read? (format : Format) (text : String) : Option Source :=
  match format with
  | toml => (Toml.readDocument? text).bind textEntries?
  | yaml => (Yaml.Node.read? text).bind yamlEntries?
  | json =>
    match Json.read? text with
    | some (.object entries) => some (entries.map fun entry => (entry.1, Datum.ofJson entry.2))
    | _ => none

end Format

/-! ## The environment -/

/-- The variables of an environment with their values. -/
abbrev Environment := List (String × String)

namespace Variable

/-- What the names of the variables begin with. -/
def namePrefix : String := "SMORES_"

/-- The parts of the name of a setting that a variable gives.  Case does not matter. -/
def parts? (name : String) : Option (List String) :=
  let cs := Text.trim name.toList
  let count := namePrefix.toList.length
  if Text.foldChars (cs.take count) != Text.foldChars namePrefix.toList then none
  else
    let key := Text.trim (Text.lower (cs.drop count))
    let parts := (Text.splitChar '.' key).map String.ofList
    if parts.any (·.isEmpty) then none else some parts

/-- A value below the parts of a name. -/
def nest (value : Datum) : List String → Datum
  | [] => value
  | part :: parts => .map [(.text part, nest value parts)]

/-- What an environment says. -/
def source (env : Environment) : Source :=
  env.filterMap fun (name, value) =>
    match parts? name with
    | some (part :: parts) => some (part, nest (read value) parts)
    | _ => none

end Variable

namespace Settings

/-! ## Loading -/

/-- A text setting; the default when no source gives it. -/
def textSetting (name missing : String) (source : Source) : Except SettingsError String :=
  match source.reverse.lookup name with
  | none => .ok missing
  | some (.text value) => .ok value
  | some _ => .error .malformed

/-- A setting that is a list of texts. -/
def textsSetting (name : String) (source : Source) : Except SettingsError (List String) :=
  match source.reverse.lookup name with
  | none => .ok []
  | some value =>
    match value.list?.bind (·.mapM Datum.text?) with
    | some texts => .ok texts
    | none => .error .malformed

/-- The settings that the sources give together. -/
def ofSource (source : Source) : Except SettingsError Settings := do
  let defaults : Settings := {}
  return ⟨← textSetting "fallback" defaults.fallback source,
    ← textSetting "default_display_field" defaults.displayField source,
    ← textsSetting "schema_dirs" source⟩

/-- What a file says. -/
def fileSource (format : Format) (file : FileTree) : Except SettingsError Source :=
  match file.text? with
  | .ok text =>
    match format.read? text with
    | some source => .ok source
    | none => .error .malformed
  | .error _ => .error .malformed

/-- The name of the settings files without their extension. -/
def fileStem : String := "smores"

/-- The name of the settings file with an extension. -/
def fileName (extension : String) : String := fileStem ++ "." ++ extension

/-- The extensions of the settings files, in the order in which the files are read. -/
def extensions : List String := ["toml", "yaml", "yml", "json"]

/-- What the file of an extension in the folder of the run says. -/
def folderSource (disk : Disk) (extension : String) : Except SettingsError Source :=
  match Format.ofExtension? extension, disk.find? (fileName extension) with
  | some format, .ok file => if file.isFolder then .ok [] else fileSource format file
  | _, _ => .ok []

/-- The settings of the files in the folder of the run and of the environment. -/
def load (disk : Disk) (env : Environment) : Except SettingsError Settings := do
  let sources ← extensions.mapM (folderSource disk)
  ofSource (sources.flatten ++ Variable.source env)

/-- The file at a path; a relative path is looked for in the folder of the run and then in the
folders above it. -/
def nearestFile? (disk : Disk) (path : String) : Option FileTree :=
  let folders := (List.range (disk.here.length + 1)).map fun up =>
    disk.here.take (disk.here.length - up)
  let places := if FilePath.isAbsolute path then [disk.here] else folders
  places.findSome? fun here =>
    match { disk with here := here }.find? path with
    | .ok file => if file.isFolder then none else some file
    | .error _ => none

/-- The settings of one file and of the environment.  A file that is not there says nothing. -/
def loadFile (disk : Disk) (env : Environment) (path : String) :
    Except SettingsError Settings := do
  match Format.ofPath? path with
  | none => throw (.unknownFormat path)
  | some format =>
    let source ← match nearestFile? disk path with
      | some file => fileSource format file
      | none => .ok []
    ofSource (source ++ Variable.source env)

end Settings

end TagTemplates
