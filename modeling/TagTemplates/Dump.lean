import TagTemplates.Template.Rendering
import TagTemplates.Registry.Resolution

/-!
# Dumping data through schemas

Data is given to a render as its schemas declare it.  Of an object only the declared fields are
kept: plain fields as they are, nested fields dumped through the schema behind them, and template
fields rendered from the other fields of the record.  The display of a schema is put once more under
the display key of the engine.

Where the schema behind a nested field is not registered, its data is taken as it is.  Data of the
wrong shape counts as missing.
-/

namespace TagTemplates

/-- An entry of an object is smaller than the object. -/
theorem Json.sizeOf_lookup_lt {key : String} {entries : List (String × Json)} {value : Json}
    (h : Json.lookup key entries = some value) : sizeOf value < sizeOf (Json.object entries) := by
  obtain ⟨⟨k, v⟩, found, rfl⟩ := Option.map_eq_some_iff.1 h
  have := List.sizeOf_lt_of_mem (List.mem_of_find?_eq_some found)
  simp only [Json.object.sizeOf_spec, Prod.mk.sizeOf_spec] at *
  omega

/-- What an object holds for a name is smaller than the object. -/
theorem Json.sizeOf_lookupName_lt {name : String} {entries : List (String × Json)} {value : Json}
    (h : Json.lookupName name entries = some value) :
    sizeOf value < sizeOf (Json.object entries) := by
  unfold Json.lookupName at h
  split at h
  · next v found =>
    cases h
    exact Json.sizeOf_lookup_lt found
  · obtain ⟨⟨k, v⟩, found, rfl⟩ := Option.map_eq_some_iff.1 h
    have := List.sizeOf_lt_of_mem (List.mem_of_find?_eq_some found)
    simp only [Json.object.sizeOf_spec, Prod.mk.sizeOf_spec] at *
    omega

/-- An item of an array is smaller than the array. -/
theorem Json.sizeOf_item_lt {items : List Json} {item : Json} (h : item ∈ items) :
    sizeOf item < sizeOf (Json.array items) := by
  have := List.sizeOf_lt_of_mem h
  simp only [Json.array.sizeOf_spec]
  omega

/-- Put nodes under the names they come with, one after another. -/
def Node.insertFields (nodes fields : List (String × Node)) : List (String × Node) :=
  nodes.foldl (fun acc e => Node.insertField e.1 e.2 acc) fields

variable [Liquid.Library]

/-- Render the text of a template field from a record. -/
def renderField (displayKey : String) (record : Node) (text : String) (tags : Bool) :
    Except TemplateError Node := do
  let source ← if tags then expand default text.toList else .ok text.toList
  return .ofText (← renderTemplate displayKey record source)

/-- Render the template fields of a record. -/
def renderFields (displayKey : String) (record : Node) :
    List Field → Except TemplateError (List (String × Node))
  | [] => .ok []
  | field :: rest =>
    match field.kind with
    | .template text tags => do
      let node ← renderField displayKey record text tags
      return (field.name, node) :: (← renderFields displayKey record rest)
    | _ => renderFields displayKey record rest

/-- Put the display of a record under the display key as well. -/
def aliasDisplay (displayKey : String) (display : Option String) (fields : List (String × Node)) :
    List (String × Node) :=
  match display with
  | some name =>
    if Text.sameName name displayKey then fields
    else
      match Node.fieldAt? (Text.fold name) fields with
      | some node => Node.insertField displayKey node fields
      | none => fields
  | none => fields

/-- The record of a schema from the nodes of its fields that are no templates. -/
def finishRecord (displayKey : String) (schema : Schema) (nodes : List (String × Node)) :
    Except TemplateError Node := do
  let plain := Node.insertFields nodes []
  let rendered ← renderFields displayKey (.record displayKey plain) schema.fields
  return .record displayKey
    (aliasDisplay displayKey schema.display (Node.insertFields rendered plain))

namespace Registry

mutual

/-- Dump a value as an instance of a schema. -/
def dump (registry : Registry) (displayKey : String) (schema : Schema) (value : Json) :
    Except TemplateError Node :=
  match value with
  | .object entries => do
    let nodes ← schema.fields.mapM (registry.dumpField displayKey schema entries)
    finishRecord displayKey schema (nodes.filterMap id)
  | _ => .ok .missing
termination_by (sizeOf value, 1)

/-- The node of a field, under the name of the field; template fields have to wait. -/
def dumpField (registry : Registry) (displayKey : String) (schema : Schema)
    (entries : List (String × Json)) (field : Field) :
    Except TemplateError (Option (String × Node)) :=
  match field.kind with
  | .template _ _ => .ok none
  | .scalar =>
    .ok (some (field.name,
      ((Json.lookupName field.name entries).map (Node.ofJson displayKey)).getD .missing))
  | .one _ =>
    match _found : Json.lookupName field.name entries with
    | none => .ok (some (field.name, .missing))
    | some .null => .ok (some (field.name, .missing))
    | some nested =>
      match registry.target schema field with
      | .ok target => do return some (field.name, ← registry.dump displayKey target nested)
      | .error _ => .ok (some (field.name, .ofJson displayKey nested))
  | .many _ =>
    match _found : Json.lookupName field.name entries with
    | some (.array items) =>
      match registry.target schema field with
      | .ok target => do
        let nodes ← items.attach.mapM fun item => registry.dump displayKey target item.1
        return some (field.name, .list nodes)
      | .error _ => .ok (some (field.name, .list (items.map (Node.ofJson displayKey))))
    | _ => .ok (some (field.name, .missing))
termination_by (sizeOf (Json.object entries), 0)
decreasing_by
  · exact Prod.Lex.left _ _ (Json.sizeOf_lookupName_lt _found)
  · exact Prod.Lex.left _ _
      (Nat.lt_trans (Json.sizeOf_item_lt item.2) (Json.sizeOf_lookupName_lt _found))

end

end Registry

end TagTemplates
