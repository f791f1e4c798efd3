import TagTemplates.Text.Basic

/-!
# Trees of files

The part of a file system that a run looks at: a tree of folders with files in them, and the folder
in which relative paths begin.  Paths are walked part by part, so a part that leads upward needs the
folder it starts from to be there.

* `Disk.find?` is what stands at a path, and `Disk.read` the text of a file.
* `FileTree.insert` puts a file or an empty folder at a path.
* `FileTree.files` lists all files below a tree with their paths.
-/

namespace TagTemplates

/-- A file with its bytes, or a folder with its entries. -/
inductive FileTree where
  | file (bytes : ByteArray)
  | folder (entries : List (String × FileTree))
  deriving Inhabited

/-- Why a file cannot be read. -/
inductive FileError where
  | missing
  /-- A path leads on from a file. -/
  | notFolder
  | isFolder
  | notText
  deriving DecidableEq, Repr

/-- The wording of an error. -/
def FileError.message : FileError → String
  | missing => "No such file or directory (os error 2)"
  | notFolder => "Not a directory (os error 20)"
  | isFolder => "Is a directory (os error 21)"
  | notText => "stream did not contain valid UTF-8"

/-! ## Paths -/

namespace FilePath

/-- Whether a path begins at the root. -/
def isAbsolute (path : String) : Bool := path.toList.head? == some '/'

/-- The parts of a path.  A slash at the end asks for a folder, as a part that stays in place
does. -/
def parts (path : String) : List String :=
  let pieces := (Text.splitChar '/' path.toList).map String.ofList
  let inner := pieces.filter (!·.isEmpty)
  if !inner.isEmpty && pieces.getLast? == some "" then inner ++ ["."] else inner

/-- The name at the end of a path. -/
def name (path : String) : String :=
  ((parts path).filter (· != ".")).getLast?.getD ""

/-- The text behind the last dot of a name that does not begin with that dot. -/
def extension? (name : String) : Option String :=
  let after := (name.toList.reverse.takeWhile (· != '.')).reverse
  if name == ".." || name.toList.length ≤ after.length + 1 then none
  else some (String.ofList after)

/-- A path as it is written from its parts. -/
def ofParts (parts : List String) : String := Text.join "/" parts

/-- The path of the folder that the end of a path stands in. -/
def folder (path : String) : String :=
  (if isAbsolute path then "/" else "") ++ ofParts (parts path).dropLast

/-- A path below a folder; an absolute path stays as it is. -/
def join (folder path : String) : String :=
  if isAbsolute path || folder.isEmpty then path
  else if folder.toList.getLast? == some '/' then folder ++ path
  else folder ++ "/" ++ path

/-- The order of paths: part by part. -/
def le : List String → List String → Bool
  | [], _ => true
  | _ :: _, [] => false
  | a :: as, b :: bs => if a = b then le as bs else decide (a < b)

end FilePath

/-! ## Trees -/

namespace FileTree

/-- A file that holds a text. -/
def ofText (text : String) : FileTree := file text.toUTF8

def isFolder : FileTree → Bool
  | folder _ => true
  | file _ => false

/-- The entry of a name. -/
def lookup (name : String) (entries : List (String × FileTree)) : Option FileTree :=
  (entries.find? (·.1 == name)).map (·.2)

/-- Put a tree under a name: in place of the entry of that name, or at the end. -/
def putEntry (name : String) (tree : FileTree) :
    List (String × FileTree) → List (String × FileTree)
  | [] => [(name, tree)]
  | (n, t) :: rest => if n = name then (n, tree) :: rest else (n, t) :: putEntry name tree rest

/-- Put a tree at a path, with the folders that lead there.  A folder that is there already stays
when the new one is empty. -/
def insert (leaf : FileTree) : List String → FileTree → FileTree
  | [], old =>
    match leaf, old with
    | folder [], folder entries => folder entries
    | _, _ => leaf
  | part :: rest, tree =>
    let entries := match tree with
      | folder entries => entries
      | file _ => []
    let below := (lookup part entries).getD (folder [])
    folder (putEntry part (insert leaf rest below) entries)

/-- Walk along the parts of a path, given the folders above, the nearest one first. -/
def walk (above : List FileTree) (tree : FileTree) : List String → Except FileError FileTree
  | [] => .ok tree
  | part :: rest =>
    match tree with
    | file _ => .error .notFolder
    | folder entries =>
      if part == "." then walk above tree rest
      else if part == ".." then
        match above with
        | [] => walk [] tree rest
        | up :: above => walk above up rest
      else
        match lookup part entries with
        | some next => walk (tree :: above) next rest
        | none => .error .missing

mutual

/-- The files of a tree with their paths, given the path of the tree. -/
def files (path : List String) : FileTree → List (List String)
  | file _ => [path]
  | folder entries => filesOf path entries

/-- The files of the entries of a folder. -/
def filesOf (path : List String) : List (String × FileTree) → List (List String)
  | [] => []
  | (name, tree) :: rest => tree.files (path ++ [name]) ++ filesOf path rest

end

/-- The text of a file. -/
def text? : FileTree → Except FileError String
  | folder _ => .error .isFolder
  | file bytes =>
    match String.fromUTF8? bytes with
    | some text => .ok text
    | none => .error .notText

end FileTree

/-! ## Disks -/

/-- A tree of files and the folder in which relative paths begin. -/
structure Disk where
  root : FileTree
  /-- The parts of the path of that folder. -/
  here : List String := []

namespace Disk

/-- What stands at a path. -/
def find? (disk : Disk) (path : String) : Except FileError FileTree :=
  if path.isEmpty then .error .missing
  else
    let parts := FilePath.parts path
    disk.root.walk [] (if FilePath.isAbsolute path then parts else disk.here ++ parts)

def isFolder (disk : Disk) (path : String) : Bool :=
  match disk.find? path with
  | .ok tree => tree.isFolder
  | .error _ => false

/-- The text of the file at a path. -/
def read (disk : Disk) (path : String) : Except FileError String :=
  (disk.find? path).bind FileTree.text?

end Disk

end TagTemplates
