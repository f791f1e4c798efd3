import TagTemplates.Command.Run

/-!
# What a run looks at

A run is a function of a disk, so the files that it may look at have to be on that disk before.
They are found in four steps, since each step needs the files of those before it: the settings, the
folders of definitions that they name, the files that the definitions name, and the files of the
command.
-/

namespace TagTemplates

/-- The files that hold texts of fields. -/
def Definition.files (definition : Definition) : List String :=
  definition.fields.filterMap fun field =>
    match field.type with
    | .template none file _ => file
    | _ => none

namespace Command

/-- Where settings are looked for, given the parts of the path of the folder of the run. -/
def Invocation.settingsPaths (here : List String) (invocation : Invocation) : List String :=
  match invocation.settings with
  | none => Settings.extensions.map Settings.fileName
  | some path =>
    if (Format.ofPath? path).isNone then []
    else
      (List.range (here.length + 1)).map fun up =>
        FilePath.join ("/" ++ FilePath.ofParts (here.take (here.length - up))) path

/-- The folders of definitions; none when there are no settings. -/
def Invocation.folders (invocation : Invocation) (disk : Disk)
    (env : Environment) : List String :=
  match invocation.findSettings disk env with
  | .ok settings => settings.schemaFolders
  | .error _ => []

/-- The files that the definition in a file names. -/
def filesNamedIn (disk : Disk) (path : String) : List String :=
  match disk.read path with
  | .ok text =>
    ((Definition.ofYaml? text).elim [] Definition.files).map (FilePath.join (FilePath.folder path))
  | .error _ => []

/-- The files that the definitions below a folder name. -/
def filesNamedBelow (disk : Disk) (folder : String) : List String :=
  match disk.find? folder with
  | .ok tree => (definitionFiles tree folder).flatMap (filesNamedIn disk)
  | .error _ => []

/-- The files of a command. -/
def Request.files : Request → List String
  | render request => [request.template, request.data] ++ request.subTemplates.toList
  | expand template _ => [template]
  | complete _ _ _ => []
  | list _ => []

end Command

end TagTemplates
