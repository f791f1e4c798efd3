import TagTemplates.Command.Help
import TagTemplates.Command.Sources

/-!
# The command line

Reads the arguments, puts the files that the run looks at on a disk, and prints the answer: texts on
the standard output, errors on the standard error.
-/

namespace TagTemplates.Command

/-- The variables of the environment that give settings. -/
def environment : IO Environment :=
  ["FALLBACK", "DEFAULT_DISPLAY_FIELD", "SCHEMA_DIRS"].filterMapM fun key => do
    let name := Variable.namePrefix ++ key
    return (← IO.getEnv name).map (name, ·)

/-- The path at which the parts of a path lead below the root. -/
def absolute (parts : List String) : String := "/" ++ FilePath.ofParts parts

/-- Whether there is a folder at a path. -/
def isFolderAt (path : String) : IO Bool := do
  let root ← IO.currentDir
  (root / path).isDir

/-- Whether what stands at a path is a link. -/
def isLinkAt (path : String) : IO Bool := do
  let root ← IO.currentDir
  match ← (root / path).symlinkMetadata.toBaseIO with
  | .ok metadata => return metadata.type == .symlink
  | .error _ => return false

/-- The tree at a path, if something is there that can be read.  Links below it are left out. -/
partial def readTree (path : String) : IO (Option FileTree) := do
  let root ← IO.currentDir
  let place := root / path
  if ← isFolderAt path then
    let mut entries := []
    for entry in ← place.readDir do
      let below := FilePath.join path entry.fileName
      unless ← isLinkAt below do
        if let some tree ← readTree below then
          entries := (entry.fileName, tree) :: entries
    return some (.folder entries)
  else
    match ← (IO.FS.readBinFile place).toBaseIO with
    | .ok bytes => return some (.file bytes)
    | .error _ => return none

/-- Put what stands at a path on a disk, with the folders that lead there. -/
def addPath (disk : Disk) (path : String) : IO Disk := do
  let mut tree := disk.root
  let mut parts := if FilePath.isAbsolute path then [] else disk.here
  for part in FilePath.parts path do
    let next := if part == "." then parts else if part == ".." then parts.dropLast
      else parts ++ [part]
    if ← isFolderAt (absolute parts) then
      tree := FileTree.insert (.folder []) parts tree
    parts := next
  match ← readTree (absolute parts) with
  | some leaf => return { disk with root := FileTree.insert leaf parts tree }
  | none => return { disk with root := tree }

/-- Put what stands at some paths on a disk. -/
def addPaths (disk : Disk) (paths : List String) : IO Disk := paths.foldlM addPath disk

/-- A disk with all that an invocation looks at. -/
def diskFor (invocation : Invocation) (env : Environment) : IO Disk := do
  let here := FilePath.parts (← IO.currentDir).toString
  let disk : Disk := ⟨FileTree.insert (.folder []) here (.folder []), here⟩
  let disk ← addPaths disk (invocation.settingsPaths here)
  let folders := invocation.folders disk env
  let disk ← addPaths disk folders
  let disk ← addPaths disk (folders.flatMap (filesNamedBelow disk))
  addPaths disk invocation.request.files

/-- Run an invocation, and answer with the status to end with. -/
def perform (invocation : Invocation) : IO UInt32 := do
  let env ← environment
  match invocation.run (← diskFor invocation env) env with
  | .ok text =>
    IO.println text
    return 0
  | .error error =>
    IO.eprintln ("Error: " ++ error.message)
    return 1

/-- Say why there is nothing to run, and answer with the status to end with. -/
def refuse (error : UsageError) : IO UInt32 := do
  if error.exitCode == 0 then IO.println error.message else IO.eprintln error.message
  return error.exitCode.toUInt32

end TagTemplates.Command

/-- Run the command line. -/
def main (arguments : List String) : IO UInt32 :=
  match TagTemplates.Command.Invocation.read arguments with
  | .ok invocation => TagTemplates.Command.perform invocation
  | .error error => TagTemplates.Command.refuse error
