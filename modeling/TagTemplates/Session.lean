import TagTemplates.Dump
import TagTemplates.Registry.Completion
import TagTemplates.Schema.Draft
import TagTemplates.Template.SubTemplates

/-!
# Sessions

A session is what a caller works with: a registry, the name of the display field, and the fallback
of unresolved tags.  A render goes through fixed stages:

1. the data has to be an object keyed by the names of root schemas;
2. sub-templates are put in place;
3. tags are expanded, those that do not resolve to the bare fallback;
4. a pass given by the caller goes over the expanded text;
5. the data of registered roots is dumped through their schemas;
6. the engine renders the text against it.

The first stage that fails decides the error.
-/

namespace TagTemplates

/-- A pass over expanded text. -/
abbrev TextPass := List Char → Except TemplateError (List Char)

/-- The settings of one render. -/
structure RenderOptions where
  subTemplates : SubTemplates := .empty
  /-- The fallback in place of that of the session. -/
  fallback : Option Fallback := none
  /-- A pass over the expanded text. -/
  preProcess : Option TextPass := none

namespace RenderOptions

/-- Text in quotes with a name in front, between parentheses. -/
def diagnosisOf (name inside : String) : String := name ++ "(" ++ inside ++ ")"

/-- A fallback as it is shown in a diagnosis. -/
def fallbackDiagnosis : Option Fallback → String
  | none => "None"
  | some (.literal text) => diagnosisOf "Some" (diagnosisOf "Literal" (Text.quoted text))
  | some (.computed _) => diagnosisOf "Some" (diagnosisOf "Computed" "..")

/-- The settings as they are shown in a diagnosis; functions are not. -/
def diagnosis (options : RenderOptions) : String :=
  let entries := Text.join ", " (options.subTemplates.entries.map fun e =>
    Text.quoted e.1 ++ ": " ++ Text.quoted e.2)
  "RenderOptions \x7b sub_templates: SubTemplates \x7b entries: \x7b" ++ entries ++ "\x7d \x7d, " ++
    "fallback: " ++ fallbackDiagnosis options.fallback ++ ", pre_process: " ++
    (if options.preProcess.isSome then "Some(\"..\")" else "None") ++ " \x7d"

end RenderOptions

/-- Errors of a session. -/
inductive SessionError where
  /-- An input of the wrong shape. -/
  | input (reason : String)
  | template (error : TemplateError)
  | schema (error : SchemaError)
  | resolve (error : ResolveError)
  deriving DecidableEq, Repr

/-- The wording of an error. -/
def SessionError.message : SessionError → String
  | input reason => "invalid input: " ++ reason
  | template error => error.message
  | schema error => error.message
  | resolve error => error.message

/-- A registry with the settings under which templates are rendered. -/
structure Session where
  registry : Registry
  /-- The folded name of the field under which records expose their display. -/
  displayKey : String
  /-- The fallback of tags that do not resolve. -/
  fallback : Fallback

namespace Session

/-- A session with some schemas registered. -/
def make (schemas : List Schema) (displayField : String := defaultDisplayField)
    (fallback : Fallback := default) : Session :=
  ⟨Registry.empty.registerAll schemas, Text.fold displayField, fallback⟩

/-- How a tag is expanded: a tag with a registered root has to resolve without crossing a list, and
is then looked up by its canonical path; every other root may be bound by the template. -/
def screen (registry : Registry) (path : Path) : Expansion :=
  match registry.lookup? path.root.name with
  | none => .lookup path
  | some _ =>
    match registry.resolveTag path with
    | .ok resolution => if resolution.throughList then .unresolved else .lookup resolution.canonical
    | .error _ => .unresolved

/-- Expand the tags of a template with a fallback. -/
def expandWith (session : Session) (fallback : Fallback) (template : List Char) :
    Except TemplateError (List Char) :=
  TagTemplates.expandWith fallback (screen session.registry) template

/-- Expand the tags of a template. -/
def expand (session : Session) (template : List Char) : Except TemplateError (List Char) :=
  session.expandWith session.fallback template

variable [Liquid.Library]

/-- Dump the entries of data that are named like a registered schema. -/
def dumpRoots (registry : Registry) (displayKey : String) :
    List (String × Json) → Except TemplateError (List (String × Node))
  | [] => .ok []
  | (name, value) :: rest =>
    match registry.lookup? name with
    | some schema => do
      let node ← registry.dump displayKey schema value
      return (name, node) :: (← dumpRoots registry displayKey rest)
    | none => dumpRoots registry displayKey rest

/-- The data of a render. -/
def context (session : Session) (entries : List (String × Json)) : Except TemplateError Node := do
  return .ofFields session.displayKey (← dumpRoots session.registry session.displayKey entries)

/-- Render a template with data, an object keyed by the names of root schemas. -/
def render (session : Session) (data : Json) (template : List Char) (options : RenderOptions) :
    Except SessionError String :=
  match data with
  | .object entries =>
    Except.mapError .template do
      let text := options.subTemplates.apply template
      let expanded ← session.expandWith (options.fallback.getD session.fallback) text
      let final ←
        match options.preProcess with
        | some pass => pass expanded
        | none => .ok expanded
      let context ← session.context entries
      renderTemplate session.displayKey context final
  | other =>
    .error (.input ("data must be an object keyed by schema name, got " ++ other.typeName))

/-- Resolve a path as an author writes it. -/
def resolvePath (session : Session) (path : List Char) : Except SessionError Resolution :=
  match Path.read path with
  | .error e => .error (.template (.tag e))
  | .ok path => (session.registry.resolveTag path).mapError .resolve

/-- Complete a text with every schema as a possible root. -/
def complete (session : Session) (fragment : List Char) : Completion :=
  session.registry.complete .all fragment

/-- Run a body with some schemas registered besides those of the session. -/
def withSchemas (session : Session) (schemas : List Schema) (body : Session → α) : α × Session :=
  let (answer, registry) :=
    session.registry.withTemporary schemas fun inner => (body { session with registry := inner }, inner)
  (answer, { session with registry := registry })

end Session

end TagTemplates
