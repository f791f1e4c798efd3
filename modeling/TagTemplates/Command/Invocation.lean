import TagTemplates.Command.Arguments
import TagTemplates.Registry.Completion
import TagTemplates.Template.Fallback

/-!
# Invocations

What a command line asks for: one of four commands, the settings file, and folders of definitions
besides those of the settings.

The options that say where settings and definitions come from can stand in front of the command or
behind it.  Those behind it win.
-/

namespace TagTemplates.Command

/-- What to render. -/
structure RenderRequest where
  /-- The path of the template. -/
  template : String
  /-- The path of the data. -/
  data : String
  /-- The path of sub-templates. -/
  subTemplates : Option String := none
  /-- The fallback in place of that of the settings. -/
  fallback : Option Fallback := none
  /-- Table loops as they are written. -/
  loops : List String := []

/-- A command with its arguments. -/
inductive Request where
  /-- Render a template. -/
  | render (request : RenderRequest)
  /-- Complete the beginning of a tag. -/
  | complete (fragment : String) (filter : RootFilter) (asJson : Bool)
  /-- List the registered schemas. -/
  | list (asJson : Bool)
  /-- Expand the tags of the template at a path. -/
  | expand (template : String) (fallback : Option Fallback)

/-- What a command line asks for. -/
structure Invocation where
  request : Request
  /-- The path of the settings file. -/
  settings : Option String := none
  /-- The paths of folders of definitions. -/
  schemaFolders : List String := []

/-! ## Levels -/

/-- The options of every level. -/
def commonOptions : List Parameter :=
  [{ name := "debug", role := .flag, letter := some 'd' },
    { name := "config", role := .value, letter := some 'c', isPath := true },
    { name := "schemas", role := .values, letter := some 's', isPath := true },
    { name := "help", role := .help, letter := some 'h' }]

def jsonOption : Parameter := { name := "json", role := .flag }

def fallbackOption : Parameter := { name := "fallback", role := .value }

def templateOperand : Parameter := { name := "template", role := .value, isPath := true }

def renderLevel : Level where
  options := commonOptions ++
    [{ name := "data", role := .value, isPath := true },
      { name := "sub-templates", role := .value, isPath := true },
      fallbackOption,
      { name := "echo-tags", role := .flag },
      { name := "table-loop", role := .values }]
  operands := [templateOperand]

def completeLevel : Level where
  options := commonOptions ++
    [{ name := "only", role := .values, isList := true },
      { name := "exclude", role := .values, isList := true },
      jsonOption]
  operands := [{ name := "fragment", role := .value }]

def listLevel : Level where
  options := commonOptions ++ [jsonOption]

def expandLevel : Level where
  options := commonOptions ++ [fallbackOption]
  operands := [templateOperand]

/-- The commands by their names. -/
def commandNames : List String := ["render", "autocomplete", "schemas", "expand"]

def topLevel : Level where
  options := commonOptions ++ [{ name := "version", role := .version, letter := some 'V' }]
  commands := commandNames ++ [helpCommand]

/-! ## Requests -/

/-- The value of a parameter that has to be there. -/
def required (given : Given) (name : String) : Except UsageError String :=
  match given.value? name with
  | some value => .ok value
  | none => .error .missingArgument

/-- The fallback that is given as a text. -/
def textFallback (given : Given) : Option Fallback := (given.value? "fallback").map .literal

/-- The request of the `render` command. -/
def renderRequest (given : Given) : Except UsageError Request := do
  if given.has "fallback" && given.has "echo-tags" then throw .conflict
  return .render
    { template := ← required given "template"
      data := ← required given "data"
      subTemplates := given.value? "sub-templates"
      fallback := if given.has "echo-tags" then some .echo else textFallback given
      loops := given.values "table-loop" }

/-- The request of the `autocomplete` command. -/
def completeRequest (given : Given) : Except UsageError Request := do
  return .complete (← required given "fragment")
    (.make (given.values "only") (given.values "exclude")) (given.has "json")

/-- The request of the `schemas` command. -/
def listRequest (given : Given) : Except UsageError Request := .ok (.list (given.has "json"))

/-- The request of the `expand` command. -/
def expandRequest (given : Given) : Except UsageError Request := do
  return .expand (← required given "template") (textFallback given)

/-- The level of a command, and the request that it makes of what is given there. -/
def commandOf : String → Option (Level × (Given → Except UsageError Request))
  | "render" => some (renderLevel, renderRequest)
  | "autocomplete" => some (completeLevel, completeRequest)
  | "schemas" => some (listLevel, listRequest)
  | "expand" => some (expandLevel, expandRequest)
  | _ => none

/-- What the command for help says to the arguments behind it: at most the name of one command. -/
def helpFor : List String → UsageError
  | [] => .help
  | [name] => if topLevel.commands.contains name then .help else .unknownCommand
  | _ => .unknownCommand

namespace Invocation

/-- The values of a parameter behind the command, or in front of it when there are none. -/
def later (front behind : Given) (name : String) : List String :=
  if behind.has name then behind.values name else front.values name

/-- Read a command line.  A command reports what is wrong behind its name before what is wrong in
front of it. -/
def read (arguments : List String) : Except UsageError Invocation := do
  let (reader, rest) ← topLevel.read topLevel.reader arguments
  match rest with
  | [] =>
    let front := (← reader.settle).given
    throw (if front.isEmpty then .nothing else .missingCommand)
  | name :: rest =>
    match commandOf name with
    | none => throw (helpFor rest)
    | some (level, request) =>
      let behind ← level.readAll rest
      let request ← request behind
      let front := (← reader.settle).given
      return { request
               settings := (later front behind "config").head?
               schemaFolders := later front behind "schemas" }

end Invocation

end TagTemplates.Command
