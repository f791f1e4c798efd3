import TagTemplates.Text.Quoted

/-!
# Schemas

A schema describes one kind of record: an ordered list of named fields, each of one kind, and
perhaps the field that stands for the whole record, its display.  A nested field leads to another
schema: held directly, named and looked up when a path is walked, or the declaring schema itself.

Two schemas that are declared alike are still two schemas.  A token tells them apart, so a schema
is the same as another exactly when the two values are equal.  Because a schema can hold schemas,
equality is decided by recursion over all the types at once.
-/

namespace TagTemplates

mutual

/-- The description of one kind of record. -/
structure Schema where
  /-- Tells apart schemas that are declared alike. -/
  token : Nat
  /-- The name as declared. -/
  name : String
  /-- The fields in the order of their declaration. -/
  fields : List Field
  /-- The folded name of the display field. -/
  display : Option String

/-- A named field. -/
structure Field where
  /-- The name as declared. -/
  name : String
  kind : FieldKind

/-- What a field holds. -/
inductive FieldKind where
  /-- A plain value. -/
  | scalar
  /-- One nested record. -/
  | one (target : SchemaRef)
  /-- A list of nested records. -/
  | many (target : SchemaRef)
  /-- A text rendered from the other fields of the record, written with tags or not. -/
  | template (text : String) (tags : Bool)

/-- What a nested field leads to. -/
inductive SchemaRef where
  | direct (schema : Schema)
  | named (name : String)
  /-- The schema that declares the field. -/
  | self

end

/-! ## Equality -/

mutual

/-- Decide whether two schemas are the same schema. -/
def Schema.decEq : (a b : Schema) → Decidable (a = b)
  | ⟨t, n, fs, d⟩, ⟨t', n', fs', d'⟩ =>
    if h : t = t' ∧ n = n' ∧ d = d' then
      match Field.listDecEq fs fs' with
      | isTrue hf => isTrue (by obtain ⟨rfl, rfl, rfl⟩ := h; subst hf; rfl)
      | isFalse hf => isFalse fun e => hf (Schema.mk.inj e).2.2.1
    else isFalse fun e => h ⟨(Schema.mk.inj e).1, (Schema.mk.inj e).2.1, (Schema.mk.inj e).2.2.2⟩

/-- Decide whether two fields are equal. -/
def Field.decEq : (a b : Field) → Decidable (a = b)
  | ⟨n, k⟩, ⟨n', k'⟩ =>
    if h : n = n' then
      match FieldKind.decEq k k' with
      | isTrue hk => isTrue (by subst h; subst hk; rfl)
      | isFalse hk => isFalse fun e => hk (Field.mk.inj e).2
    else isFalse fun e => h (Field.mk.inj e).1

/-- Decide whether two kinds are equal. -/
def FieldKind.decEq : (a b : FieldKind) → Decidable (a = b)
  | .scalar, .scalar => isTrue rfl
  | .one a, .one b =>
    match SchemaRef.decEq a b with
    | isTrue h => isTrue (congrArg FieldKind.one h)
    | isFalse h => isFalse fun e => h (FieldKind.one.inj e)
  | .many a, .many b =>
    match SchemaRef.decEq a b with
    | isTrue h => isTrue (congrArg FieldKind.many h)
    | isFalse h => isFalse fun e => h (FieldKind.many.inj e)
  | .template t b, .template t' b' =>
    if h : t = t' ∧ b = b' then isTrue (by obtain ⟨rfl, rfl⟩ := h; rfl)
    else isFalse fun e => h (FieldKind.template.inj e)
  | .scalar, .one _ => isFalse nofun
  | .scalar, .many _ => isFalse nofun
  | .scalar, .template _ _ => isFalse nofun
  | .one _, .scalar => isFalse nofun
  | .one _, .many _ => isFalse nofun
  | .one _, .template _ _ => isFalse nofun
  | .many _, .scalar => isFalse nofun
  | .many _, .one _ => isFalse nofun
  | .many _, .template _ _ => isFalse nofun
  | .template _ _, .scalar => isFalse nofun
  | .template _ _, .one _ => isFalse nofun
  | .template _ _, .many _ => isFalse nofun

/-- Decide whether two references are equal. -/
def SchemaRef.decEq : (a b : SchemaRef) → Decidable (a = b)
  | .direct a, .direct b =>
    match Schema.decEq a b with
    | isTrue h => isTrue (congrArg SchemaRef.direct h)
    | isFalse h => isFalse fun e => h (SchemaRef.direct.inj e)
  | .named a, .named b =>
    if h : a = b then isTrue (congrArg SchemaRef.named h)
    else isFalse fun e => h (SchemaRef.named.inj e)
  | .self, .self => isTrue rfl
  | .direct _, .named _ => isFalse nofun
  | .direct _, .self => isFalse nofun
  | .named _, .direct _ => isFalse nofun
  | .named _, .self => isFalse nofun
  | .self, .direct _ => isFalse nofun
  | .self, .named _ => isFalse nofun

/-- Decide whether two lists of fields are equal. -/
def Field.listDecEq : (as bs : List Field) → Decidable (as = bs)
  | [], [] => isTrue rfl
  | [], _ :: _ => isFalse nofun
  | _ :: _, [] => isFalse nofun
  | a :: as, b :: bs =>
    match Field.decEq a b, Field.listDecEq as bs with
    | isTrue h, isTrue hs => isTrue (congr (congrArg List.cons h) hs)
    | isFalse h, _ => isFalse fun e => h (List.cons.inj e).1
    | _, isFalse hs => isFalse fun e => hs (List.cons.inj e).2

end

instance : DecidableEq Schema := Schema.decEq
instance : DecidableEq Field := Field.decEq
instance : DecidableEq FieldKind := FieldKind.decEq
instance : DecidableEq SchemaRef := SchemaRef.decEq

/-! ## References and kinds -/

namespace SchemaRef

/-- The name of the schema that a reference leads to, as it is shown. -/
def targetName : SchemaRef → String
  | direct schema => schema.name
  | named name => name
  | self => "self"

/-- Whether two references lead the same way; names are compared up to case. -/
def agrees : SchemaRef → SchemaRef → Bool
  | direct a, direct b => a = b
  | named a, named b => Text.sameName a b
  | self, self => true
  | _, _ => false

/-- A reference as it is shown in a diagnosis: only the name of its target. -/
def diagnosis : SchemaRef → String
  | direct schema => "Schema(" ++ Text.quoted schema.name ++ ")"
  | named name => "Named(" ++ Text.quoted name ++ ")"
  | self => "SelfRef"

end SchemaRef

namespace FieldKind

/-- What a nested field leads to. -/
def target? : FieldKind → Option SchemaRef
  | one target => some target
  | many target => some target
  | _ => none

def isMany : FieldKind → Bool
  | many _ => true
  | _ => false

def isTemplate : FieldKind → Bool
  | template _ _ => true
  | _ => false

/-- Whether a path ends on a field of this kind. -/
def isTerminal (kind : FieldKind) : Bool := kind.target?.isNone

/-- Whether two kinds are alike, up to the case of the names in them. -/
def agrees : FieldKind → FieldKind → Bool
  | scalar, scalar => true
  | one a, one b => a.agrees b
  | many a, many b => a.agrees b
  | template t b, template t' b' => t == t' && b == b'
  | _, _ => false

/-- The name of a kind in a listing. -/
def label : FieldKind → String
  | scalar => "scalar"
  | one target => "nested(" ++ target.targetName ++ ")"
  | many target => "nested-many(" ++ target.targetName ++ ")"
  | template _ true => "template(tags)"
  | template _ false => "template"

end FieldKind

/-- The form of a field's name under which it is looked up. -/
def Field.key (field : Field) : String := Text.fold field.name

/-! ## Schemas -/

namespace Schema

/-- The name under which a schema is the root of a path. -/
def key (schema : Schema) : String := Text.fold schema.name

def hasName (schema : Schema) (name : String) : Bool := Text.sameName schema.name name

/-- The field of a name, up to case. -/
def field? (schema : Schema) (name : String) : Option Field :=
  schema.fields.find? fun field => Text.sameName field.name name

/-- The folded names of the fields, in the order of their declaration. -/
def fieldNames (schema : Schema) : List String := schema.fields.map Field.key

def size (schema : Schema) : Nat := schema.fields.length

def hasDisplay (schema : Schema) : Bool := schema.display.isSome

end Schema

end TagTemplates
