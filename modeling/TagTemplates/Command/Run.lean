import TagTemplates.Command.Invocation
import TagTemplates.Command.Listing
import TagTemplates.Json.Reader
import TagTemplates.Registry.Loading
import TagTemplates.Session
import TagTemplates.Settings.Basic
import TagTemplates.Table.Loop

/-!
# Running a command

A run looks at a disk and at the variables of its environment, and answers with a text to print or
with an error.  It goes through these stages, and the first one that fails decides the error:

1. the settings;
2. every folder of definitions has to be there;
3. the definitions are loaded, leaving out those that are no schemas, and registered;
4. the command itself, which reads its files in the order in which its arguments are listed.
-/

namespace TagTemplates.Command

/-- Why a run fails. -/
inductive RunError where
  /-- There are no settings, in a given file or around. -/
  | settings (path : Option String) (error : SettingsError)
  /-- A folder of definitions is not there. -/
  | missingFolder (path : String)
  | unreadable (path : String) (error : FileError)
  | notJson (path : String)
  | subTemplates (path : String) (error : TemplateError)
  /-- A table loop that is not written as one. -/
  | tableLoop (spec : String)
  | render (path : String) (error : SessionError)
  | expand (path : String) (error : TemplateError)
  deriving DecidableEq, Repr

/-- The wording of an error. -/
def RunError.message : RunError → String
  | settings (some path) error => "failed to load config file " ++ path ++ ": " ++ error.message
  | settings none error => "failed to load configuration: " ++ error.message
  | missingFolder path => "schema directory " ++ path ++ " does not exist"
  | unreadable path error => "failed to read " ++ path ++ ": " ++ error.message
  | notJson path => path ++ " is not valid JSON"
  | subTemplates path error => "invalid sub-templates in " ++ path ++ ": " ++ error.message
  | tableLoop spec => "table loop '" ++ spec ++ "' is not ITERATOR=ITERABLE"
  | render path error => "failed to render " ++ path ++ ": " ++ error.message
  | expand path error => "failed to expand " ++ path ++ ": " ++ error.message

/-! ## Setting up -/

/-- The settings of an invocation, with its own folders of definitions behind theirs. -/
def Invocation.findSettings (invocation : Invocation) (disk : Disk)
    (env : Environment) : Except RunError Settings := do
  let settings ← (match invocation.settings with
    | some path => Settings.loadFile disk env path
    | none => Settings.load disk env).mapError (.settings invocation.settings)
  return { settings with schemaFolders := settings.schemaFolders ++ invocation.schemaFolders }

/-- Register the definitions of folders one after another. -/
def registerFolders (disk : Disk) (registry : Registry) (folders : List String) : Registry :=
  folders.foldl (fun registry folder => (registry.load registry.freshToken disk folder).2) registry

/-- The session of settings. -/
def openSession (disk : Disk) (settings : Settings) : Except RunError Session :=
  match settings.schemaFolders.find? fun folder => !disk.isFolder folder with
  | some folder => .error (.missingFolder folder)
  | none =>
    let session := Session.make [] settings.displayField (.literal settings.fallback)
    .ok { session with
      registry := registerFolders disk session.registry settings.schemaFolders }

/-! ## Commands -/

def readText (disk : Disk) (path : String) : Except RunError String :=
  (disk.read path).mapError (.unreadable path)

def readJson (disk : Disk) (path : String) : Except RunError Json := do
  match Json.read? (← readText disk path) with
  | some value => return value
  | none => throw (.notJson path)

/-- The sub-templates in a file. -/
def readSubTemplates (disk : Disk) (path : String) : Except RunError SubTemplates := do
  (SubTemplates.ofJson (← readJson disk path)).mapError (.subTemplates path)

/-- The pass that loops table rows; none when there are no loops. -/
def loopPass (specs : List String) : Except RunError (Option TextPass) := do
  let loops ← specs.mapM fun spec => (TableLoop.ofSpec? spec).elim (.error (.tableLoop spec)) .ok
  return if loops.isEmpty then none else some fun text => (loopRows loops text).mapError .abort

variable [Liquid.Library]

/-- Render a template. -/
def runRender (disk : Disk) (session : Session) (request : RenderRequest) :
    Except RunError String := do
  let template ← readText disk request.template
  let data ← readJson disk request.data
  let subTemplates ← match request.subTemplates with
    | some path => readSubTemplates disk path
    | none => .ok .empty
  let preProcess ← loopPass request.loops
  (session.render data template.toList ⟨subTemplates, request.fallback, preProcess⟩).mapError
    (.render request.template)

/-- Expand the tags of a template. -/
def runExpand (disk : Disk) (session : Session) (template : String) (fallback : Option Fallback) :
    Except RunError String := do
  let text ← readText disk template
  let expanded ← (session.expandWith (fallback.getD session.fallback) text.toList).mapError
    (.expand template)
  return String.ofList expanded

/-- A completion as data, its status first. -/
def completionJson (completion : Completion) : Json :=
  .object [("status", .string completion.status.text),
    ("options", .array (completion.options.map .string)),
    ("validFragment", .string completion.validFragment)]

/-- A completion as text: the status and the part that is valid, and a line for each option. -/
def completionText (completion : Completion) : String :=
  let head := completion.status.text ++ " " ++ completion.validFragment
  String.ofList (Text.dropWhileEnd Text.isSpace head.toList) ++
    Text.concat (completion.options.map fun option => "\n  " ++ option)

/-- What a request answers in a session. -/
def Request.run (disk : Disk) (session : Session) : Request → Except RunError String
  | render request => runRender disk session request
  | expand template fallback => runExpand disk session template fallback
  | complete fragment filter asJson =>
    let completion := session.registry.complete filter fragment.toList
    .ok (if asJson then (completionJson completion).pretty else completionText completion)
  | list asJson =>
    .ok (if asJson then session.registry.listingJson.pretty else session.registry.listingText)

/-- What an invocation answers. -/
def Invocation.run (invocation : Invocation) (disk : Disk) (env : Environment) :
    Except RunError String := do
  let settings ← invocation.findSettings disk env
  let session ← openSession disk settings
  invocation.request.run disk session

end TagTemplates.Command
