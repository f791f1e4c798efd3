import TagTemplates.Schema.Basic
import TagTemplates.Schema.Error

/-!
# Building schemas

A draft collects a name, fields and perhaps a display, and `Draft.build` makes a schema of it.  A
schema is addressable: its name and its field names can be written in a tag, and no two fields have
one name up to case.  A field with the well-known name is the display unless another one is
designated.
-/

namespace TagTemplates

/-- The well-known name of a display field. -/
def defaultDisplayField : String := "_default_template"

/-- Whether a tag can write a name. -/
def isTagName (name : String) : Bool :=
  !name.toList.isEmpty && name.toList.all Text.isNameChar

/-- A schema that is being declared. -/
structure Draft where
  name : String
  fields : List Field := []
  /-- The field that is designated as the display. -/
  display : Option String := none

namespace Draft

/-- Declare a field. -/
def field (draft : Draft) (name : String) (kind : FieldKind) : Draft :=
  { draft with fields := draft.fields ++ [⟨name, kind⟩] }

def scalar (draft : Draft) (name : String) : Draft := draft.field name .scalar

/-- Declare several plain fields. -/
def scalars (draft : Draft) (names : List String) : Draft := names.foldl Draft.scalar draft

def one (draft : Draft) (name : String) (target : SchemaRef) : Draft :=
  draft.field name (.one target)

def many (draft : Draft) (name : String) (target : SchemaRef) : Draft :=
  draft.field name (.many target)

/-- Declare a template field that is written without tags. -/
def template (draft : Draft) (name text : String) : Draft :=
  draft.field name (.template text false)

/-- Declare a template field that is written with tags. -/
def tagTemplate (draft : Draft) (name text : String) : Draft :=
  draft.field name (.template text true)

/-- Designate the display field. -/
def displayField (draft : Draft) (name : String) : Draft := { draft with display := some name }

/-- Declare the well-known field and make it the display. -/
def defaultTemplate (draft : Draft) (text : String) : Draft :=
  (draft.template defaultDisplayField text).displayField defaultDisplayField

/-- Declare the well-known field, written with tags, and make it the display. -/
def defaultTagTemplate (draft : Draft) (text : String) : Draft :=
  (draft.tagTemplate defaultDisplayField text).displayField defaultDisplayField

/-- The first fault among fields, given the folded names of the fields before them. -/
def checkFields (schema : String) (seen : List String) : List Field → Except SchemaError Unit
  | [] => .ok ()
  | field :: rest =>
    if !isTagName field.name then .error (.invalidName field.name)
    else if seen.contains field.key then .error (.duplicateField schema field.name)
    else checkFields schema (field.key :: seen) rest

/-- Whether a folded name is the name of one of the fields. -/
def declares (draft : Draft) (key : String) : Bool := (draft.fields.map Field.key).contains key

/-- The folded name of the display field. -/
def chooseDisplay (draft : Draft) : Except SchemaError (Option String) :=
  match draft.display with
  | some name =>
    if draft.declares (Text.fold name) then .ok (some (Text.fold name))
    else .error (.unknownDisplay draft.name name)
  | none => .ok (if draft.declares defaultDisplayField then some defaultDisplayField else none)

/-- Build the schema of a draft. -/
def build (token : Nat) (draft : Draft) : Except SchemaError Schema := do
  if !isTagName draft.name then throw (.invalidName draft.name)
  checkFields draft.name [] draft.fields
  return ⟨token, draft.name, draft.fields, ← draft.chooseDisplay⟩

end Draft

end TagTemplates
