import TagTemplates.Datum
import TagTemplates.Schema.Draft
import TagTemplates.Yaml.Document
import TagTemplates.Yaml.Writer

/-!
# Schema definitions

A definition is a schema as it is written in a document: nested fields name their targets, and the
text of a template field may stand in a file.

* `Definition.draft?` makes a draft of a definition; from there it is a schema like any other.
* `Definition.ofJson?` and `Definition.ofYaml?` read definitions.  A record may be given as a map or
  as the list of its parts; in a map the parts that it does not have are ignored, and one that is
  given twice is refused.
* `Definition.toJson` and `Definition.toYaml` write them.
-/

namespace TagTemplates

/-- The type of a field as it is written. -/
inductive FieldType where
  | scalar
  | nested (schema : String) (many : Bool)
  | template (text file : Option String) (tags : Bool)
  deriving DecidableEq, Repr

/-- A field as it is written. -/
structure FieldDefinition where
  name : String
  type : FieldType
  deriving DecidableEq, Repr

/-- A schema as it is written. -/
structure Definition where
  name : String
  /-- The name of the field that is the display. -/
  display : Option String
  fields : List FieldDefinition
  deriving DecidableEq, Repr

/-! ## From definitions to schemas -/

/-- The name under which a schema refers to itself. -/
def selfReference : String := "self"

/-- The target that a name refers to. -/
def SchemaRef.ofName (name : String) : SchemaRef :=
  if Text.sameName name selfReference then .self else .named name

/-- The text of a template field: what is written there, or else what its file holds. -/
def templateText (read : String → Except SchemaError String) (schema field : String) :
    Option String → Option String → Except SchemaError String
  | some text, _ => .ok text
  | none, some file => read file
  | none, none => .error (.missingTemplate schema field)

/-- The kind of a field, given the content of files. -/
def FieldType.kind? (read : String → Except SchemaError String) (schema field : String) :
    FieldType → Except SchemaError FieldKind
  | .scalar => .ok .scalar
  | .nested target many =>
    .ok (if many then .many (SchemaRef.ofName target) else .one (SchemaRef.ofName target))
  | .template text file tags =>
    (templateText read schema field text file).map fun text => .template text tags

/-- A field of a schema, given the content of files. -/
def FieldDefinition.field? (read : String → Except SchemaError String) (schema : String)
    (definition : FieldDefinition) : Except SchemaError Field :=
  (definition.type.kind? read schema definition.name).map fun kind => ⟨definition.name, kind⟩

/-- The draft of a schema, given the content of files. -/
def Definition.draft? (read : String → Except SchemaError String) (definition : Definition) :
    Except SchemaError Draft :=
  (definition.fields.mapM (FieldDefinition.field? read definition.name)).map fun fields =>
    ⟨definition.name, fields, definition.display⟩

/-- The schema of a definition, given the content of files. -/
def Definition.build (token : Nat) (read : String → Except SchemaError String)
    (definition : Definition) : Except SchemaError Schema := do
  (← definition.draft? read).build token

/-! ## Parts of records -/

/-- The parts of a record that are given by their names. -/
abbrev Parts (α : Type) := List (String × α)

/-- The parts of a record that is given as a list: they stand in order, and the last ones may be
missing. -/
def Parts.ofItems? (names : List String) (items : List α) : Option (Parts α) :=
  if items.length ≤ names.length then some (names.zip items) else none

/-- The parts of a record that is given as a map: other entries are ignored, and no part is given
twice. -/
def Parts.ofEntries? (names : List String) (entries : List (String × α)) : Option (Parts α) :=
  let known := entries.filter fun entry => names.contains entry.1
  if (known.map (·.1)).Nodup then some known else none

/-! ## Reading types -/

/-- The part of a type that a key of a map stands for: its name, or its number. -/
def partName? (names : List String) : Datum → Option String
  | .text name => some name
  | .whole n => if n < 0 then none else some (names.getD n.toNat "")
  | _ => none

/-- The parts of a type behind its kind. -/
def typeParts? (names : List String) : Datum → Option (Parts Datum)
  | .list items => Parts.ofItems? names items
  | .map entries => do
    Parts.ofEntries? names (← entries.mapM fun entry =>
      (partName? names entry.1).map (·, entry.2))
  | _ => none

/-- Read a part that has a value of its own when it is missing. -/
def Parts.getOr? (parts : Parts α) (name : String) (missing : β) (read : α → Option β) :
    Option β :=
  match parts.lookup name with
  | some value => read value
  | none => some missing

namespace FieldType

/-- Whether the key of an entry is the name of the kind. -/
def isKindKey (entry : Datum × Datum) : Bool := entry.1.text? == some "kind"

/-- The kind of a type and its content: the entry of its name, or the first item of a list. -/
def split? : Datum → Option (String × Datum)
  | .list (kind :: rest) => kind.text?.map (·, .list rest)
  | .map entries =>
    match entries.filter isKindKey with
    | [(_, kind)] => kind.text?.map (·, .map (entries.filter (!isKindKey ·)))
    | _ => none
  | _ => none

/-- Read a type of a kind. -/
def ofContent? (kind : String) (content : Datum) : Option FieldType :=
  match kind with
  | "scalar" =>
    match content with
    | .list (_ :: _) => none
    | _ => some scalar
  | "nested" => do
    let parts ← typeParts? ["schema", "many"] content
    let target ← (← parts.lookup "schema").text?
    return nested target (← parts.getOr? "many" false Datum.bool?)
  | "template" => do
    let parts ← typeParts? ["text", "file", "tags"] content
    let text ← parts.getOr? "text" none Datum.optionalText?
    let file ← parts.getOr? "file" none Datum.optionalText?
    return template text file (← parts.getOr? "tags" false Datum.bool?)
  | _ => none

/-- Read a type, whose numbers have to fit in words. -/
def ofDatum? (value : Datum) : Option FieldType := do
  let (kind, content) ← split? value
  if content.fitsWords then ofContent? kind content else none

end FieldType

/-! ## Reading definitions -/

/-- How a format of documents answers what a definition asks for. -/
structure Reading (α : Type) where
  text? : α → Option String
  optionalText? : α → Option (Option String)
  items? : α → Option (List α)
  /-- The parts of a record with the given names. -/
  parts? : List String → α → Option (Parts α)
  /-- The typed value of a type. -/
  datum? : α → Option Datum

namespace Reading

/-- Data is typed already. -/
def json : Reading Json where
  text? := Json.string?
  optionalText? value := (Datum.ofJson value).optionalText?
  items? := Json.array?
  parts? names value :=
    match value with
    | .array items => Parts.ofItems? names items
    | .object entries => Parts.ofEntries? names entries
    | _ => none
  datum? value := some (Datum.ofJson value)

/-- In YAML the name of a thing is a text whatever it looks like.  The type of a field stands inside
of three collections. -/
def yaml : Reading Yaml.Node where
  text? := Yaml.Node.text?
  optionalText? := Yaml.Node.optionalText?
  items? := Yaml.Node.items?
  parts? names node :=
    match node with
    | .list _ items => Parts.ofItems? names items
    | _ => node.entries?.bind (Parts.ofEntries? names)
  datum? node := if node.depth + 3 ≤ Yaml.maxDepth then node.toDatum? else none

end Reading

/-- Read a field. -/
def FieldDefinition.read? (r : Reading α) (value : α) : Option FieldDefinition := do
  let parts ← r.parts? ["name", "type"] value
  let name ← r.text? (← parts.lookup "name")
  return ⟨name, ← FieldType.ofDatum? (← r.datum? (← parts.lookup "type"))⟩

namespace Definition

/-- Read a definition. -/
def read? (r : Reading α) (value : α) : Option Definition := do
  let parts ← r.parts? ["name", "default_display", "fields"] value
  let name ← r.text? (← parts.lookup "name")
  let display ← parts.getOr? "default_display" none r.optionalText?
  let items ← parts.getOr? "fields" [] r.items?
  return ⟨name, display, ← items.mapM (FieldDefinition.read? r)⟩

/-- The definition that data is. -/
def ofJson? (value : Json) : Option Definition := read? .json value

/-- The definition that a YAML text is. -/
def ofYaml? (text : String) : Option Definition := (Yaml.Node.read? text).bind (read? .yaml)

end Definition

/-! ## Writing definitions -/

/-- An entry that is left out when it has no value. -/
def optionalEntry (key : String) : Option String → List (String × Yaml.Form)
  | some value => [(key, .text value)]
  | none => []

/-- The entries of a type, its kind first. -/
def FieldType.entries : FieldType → List (String × Yaml.Form)
  | scalar => [("kind", .text "scalar")]
  | nested schema many => [("kind", .text "nested"), ("schema", .text schema), ("many", .flag many)]
  | template text file tags =>
    ("kind", .text "template") :: optionalEntry "text" text ++ optionalEntry "file" file ++
      [("tags", .flag tags)]

def FieldDefinition.form (definition : FieldDefinition) : Yaml.Form :=
  .record [("name", .text definition.name), ("type", .record definition.type.entries)]

namespace Definition

/-- The entries of a definition. -/
def entries (definition : Definition) : List (String × Yaml.Form) :=
  ("name", .text definition.name) :: optionalEntry "default_display" definition.display ++
    [("fields", .list (definition.fields.map FieldDefinition.form))]

/-- A definition as data. -/
def toJson (definition : Definition) : Json := (Yaml.Form.record definition.entries).toJson

/-- A definition as a YAML text. -/
def toYaml (definition : Definition) : String := Yaml.Form.document definition.entries

end Definition

end TagTemplates
