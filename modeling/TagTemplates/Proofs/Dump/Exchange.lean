import Mathlib.Logic.Relation
import TagTemplates.Proofs.Agreement
import TagTemplates.Proofs.Dump.LetterCase

/-!
# One schema in place of another

A schema is exchanged for another one wherever it is registered or held.  A dump that never passes
an object to the old schema does not notice.

* `Schema.Exchanged`, `Registry.Exchanged`: schemas and registries with one schema in place of
  another.
* `Registry.Passes`: a dump of one object passes another object to a schema on the way.
* `Registry.target_agree`, `Registry.dumpField_agree`: what nested fields lead to, and what they are
  dumped to.
* `Registry.dump_agree_of_unreached`: a dump that does not reach the old schema is as it was.
-/

namespace TagTemplates

open Relation

mutual

/-- The second schema is the first one with a new schema in place of an old one, wherever this is
held. -/
inductive Schema.Exchanged (old new : Schema) : Schema → Schema → Prop where
  | same (schema : Schema) : Schema.Exchanged old new schema schema
  | here : Schema.Exchanged old new old new
  | held {token token' : Nat} {name : String} {fields fields' : List Field}
      {display : Option String} : List.Forall₂ (Field.Exchanged old new) fields fields' →
      Schema.Exchanged old new ⟨token, name, fields, display⟩ ⟨token', name, fields', display⟩

/-- The second field is the first one with the new schema in place of the old one. -/
inductive Field.Exchanged (old new : Schema) : Field → Field → Prop where
  | same (field : Field) : Field.Exchanged old new field field
  | one {schema schema' : Schema} (name : String) : Schema.Exchanged old new schema schema' →
      Field.Exchanged old new ⟨name, .one (.direct schema)⟩ ⟨name, .one (.direct schema')⟩
  | many {schema schema' : Schema} (name : String) : Schema.Exchanged old new schema schema' →
      Field.Exchanged old new ⟨name, .many (.direct schema)⟩ ⟨name, .many (.direct schema')⟩

end

/-- Every name is looked up to the same schema, up to the exchange. -/
def Registry.Exchanged (old new : Schema) (registry other : Registry) : Prop :=
  ∀ name, Option.Rel (Schema.Exchanged old new) (registry.lookup? name) (other.lookup? name)

variable {old new schema schema' : Schema} {field field' : Field}

/-- Registries are exchanged whose schemas are so one by one, with the same names. -/
theorem Registry.exchanged_of_forall₂ {schemas others : List Schema}
    (h : List.Forall₂ (fun schema schema' => Schema.Exchanged old new schema schema' ∧
      schema.name = schema'.name) schemas others) :
    Registry.Exchanged old new ⟨schemas⟩ ⟨others⟩ := by
  intro name
  rw [lookup?, lookup?]
  induction h with
  | nil => exact .none
  | @cons schema schema' _ _ hpair _ ih =>
    obtain ⟨hexchanged, hname⟩ := hpair
    have hsame : schema'.hasName name = schema.hasName name := by
      rw [Schema.hasName, Schema.hasName, hname]
    rw [List.find?_cons, List.find?_cons, hsame]
    cases schema.hasName name with
    | true => exact .some hexchanged
    | false => exact ih

/-- The schema is the one that is exchanged, or its fields are exchanged one by one. -/
theorem Schema.Exchanged.here_or_fields (h : Schema.Exchanged old new schema schema') :
    (schema = old ∧ schema' = new) ∨
      (List.Forall₂ (Field.Exchanged old new) schema.fields schema'.fields ∧
        schema'.display = schema.display) := by
  cases h with
  | same => exact Or.inr ⟨List.forall₂_same.mpr fun field _ => .same field, rfl⟩
  | here => exact Or.inl ⟨rfl, rfl⟩
  | held hfields => exact Or.inr ⟨hfields, rfl⟩

/-- Only what a nested field holds is exchanged. -/
theorem Field.Exchanged.eq_or_nested (h : Field.Exchanged old new field field') :
    field' = field ∨ field.name = field'.name ∧ field.kind.isMany = field'.kind.isMany ∧
      field.kind.isTerminal = false ∧ field'.kind.isTerminal = false := by
  cases h with
  | same => exact Or.inl rfl
  | one name _ => exact Or.inr ⟨rfl, rfl, rfl, rfl⟩
  | many name _ => exact Or.inr ⟨rfl, rfl, rfl, rfl⟩

/-- The values of a field that are dumped through the schema behind it: the items of a list, or the
one value. -/
def FieldKind.instances (kind : FieldKind) (v : Json) : List Json :=
  if kind.isMany then
    match v with
    | .array items => items
    | _ => []
  else [v]

/-- The values of a field are no larger than what the field holds. -/
theorem FieldKind.sizeOf_le_of_mem_instances {kind : FieldKind} {v w : Json}
    (h : w ∈ kind.instances v) : sizeOf w ≤ sizeOf v := by
  unfold instances at h
  split at h
  · split at h
    · exact Nat.le_of_lt (Json.sizeOf_item_lt h)
    · exact absurd h List.not_mem_nil
  · exact Nat.le_of_eq (congrArg sizeOf (List.mem_singleton.mp h))

/-- Nodes are related to themselves, and lists of related nodes are. -/
structure NodeCongruence (P : Node → Node → Prop) : Prop where
  refl (n : Node) : P n n
  list {items others : List Node} : List.Forall₂ P items others → P (.list items) (.list others)

/-- The nodes come with the same name and are related. -/
def SameName (P : Node → Node → Prop) (e e' : String × Node) : Prop := e.1 = e'.1 ∧ P e.2 e'.2

namespace Registry

variable {registry other : Registry} {displayKey : String} {entries : List (String × Json)}
  {P : Node → Node → Prop}

/-- A dump of an object through a schema dumps an object in one of its nested fields through the
schema behind the field. -/
def Passes (registry : Registry) (place below : Schema × List (String × Json)) : Prop :=
  ∃ field ∈ place.1.fields, registry.target place.1 field = .ok below.1 ∧
    Json.object below.2 ∈ field.kind.instances ((Json.object place.2).entryOf field.name)

/-! ## Nested fields -/

/-- The schemas behind exchanged fields are exchanged. -/
theorem target_agree (hregistry : Registry.Exchanged old new registry other)
    (hschema : Schema.Exchanged old new schema schema')
    (hfield : Field.Exchanged old new field field') :
    Agree (Schema.Exchanged old new) (registry.target schema field)
      (other.target schema' field') := by
  cases hfield with
  | same =>
    rw [target, target]
    cases field.kind.target? with
    | none => exact .error _ _
    | some reference =>
      cases reference with
      | direct held => exact .ok (.same held)
      | self => exact .ok hschema
      | named name =>
        have hfound := hregistry name
        simp only
        generalize registry.lookup? name = found at hfound ⊢
        generalize other.lookup? name = found' at hfound ⊢
        cases hfound with
        | none => exact .error _ _
        | some hexchanged => exact .ok hexchanged
  | one name hheld => exact .ok hheld
  | many name hheld => exact .ok hheld

variable [Liquid.Library]

/-- What nested fields hold is dumped with agreement when their values are. -/
theorem dumpBehind_agree (hP : NodeCongruence P) {target target' : Schema} {v : Json}
    (hmany : field.kind.isMany = field'.kind.isMany)
    (h : ∀ w ∈ field.kind.instances v,
      Agree P (registry.dump displayKey target w) (other.dump displayKey target' w)) :
    Agree P (registry.dumpBehind displayKey field target v)
      (other.dumpBehind displayKey field' target' v) := by
  unfold FieldKind.instances at h
  rw [dumpBehind, dumpBehind, ← hmany]
  by_cases hlist : field.kind.isMany = true
  · rw [if_pos hlist] at h
    rw [if_pos hlist, if_pos hlist]
    cases v with
    | array items =>
      have hitems : Agree (List.Forall₂ P) (items.mapM (registry.dump displayKey target))
          (items.mapM (other.dump displayKey target')) :=
        Agree.mapM (List.forall₂_same.mpr fun item _ => Eq.refl item) fun item hitem _ heq =>
          heq ▸ h item hitem
      exact hitems.bind fun ns ms _ _ hall => .ok (hP.list hall)
    | _ => exact .ok (hP.refl _)
  · rw [if_neg hlist] at h
    rw [if_neg hlist, if_neg hlist]
    exact h v (List.mem_singleton.mpr rfl)

/-- **Exchanged fields are dumped with agreement** when the values in them are. -/
theorem dumpField_agree (hP : NodeCongruence P)
    (hregistry : Registry.Exchanged old new registry other)
    (hschema : Schema.Exchanged old new schema schema')
    (hfield : Field.Exchanged old new field field')
    (ih : ∀ target target', registry.target schema field = .ok target →
      Schema.Exchanged old new target target' →
      ∀ w ∈ field.kind.instances ((Json.object entries).entryOf field.name),
        Agree P (registry.dump displayKey target w) (other.dump displayKey target' w)) :
    Agree (Option.Rel (SameName P)) (registry.dumpField displayKey schema entries field)
      (other.dumpField displayKey schema' entries field') := by
  have hnested : field.name = field'.name → field.kind.isMany = field'.kind.isMany →
      field.kind.isTerminal = false → field'.kind.isTerminal = false →
      Agree (Option.Rel (SameName P)) (registry.dumpField displayKey schema entries field)
        (other.dumpField displayKey schema' entries field') := by
    intro hname hmany hkind hkind'
    have htargets := target_agree hregistry hschema hfield
    obtain ⟨e, e', htarget, htarget'⟩ | ⟨target, target', htarget, htarget', hexchanged⟩ :=
      htargets.error_or_ok
    · rw [dumpField_raw hkind htarget, dumpField_raw hkind' htarget']
      unfold Field.rawNode
      rw [← hmany, ← hname]
      exact .ok (.some ⟨rfl, hP.refl _⟩)
    · rw [dumpField_nested hkind htarget, dumpField_nested hkind' htarget', ← hname]
      exact (dumpBehind_agree hP hmany (ih target target' htarget hexchanged)).map
        fun n m hnm => .some ⟨rfl, hnm⟩
  rcases hfield.eq_or_nested with rfl | ⟨hname, hmany, hkind, hkind'⟩
  · by_cases hterminal : field'.kind.isTerminal = true
    · rcases FieldKind.eq_terminal hterminal with hkind | ⟨text, tags, hkind⟩
      · rw [dumpField_scalar hkind, dumpField_scalar hkind]
        exact .ok (.some ⟨rfl, hP.refl _⟩)
      · rw [dumpField_template hkind, dumpField_template hkind]
        exact .ok .none
    · rw [Bool.not_eq_true] at hterminal
      exact hnested rfl rfl hterminal hterminal
  · exact hnested hname hmany hkind hkind'

end Registry

/-! ## Template fields -/

/-- The name, the text and the syntax of a template field. -/
def Field.template? (field : Field) : Option (String × String × Bool) :=
  match field.kind with
  | .template text tags => some (field.name, text, tags)
  | _ => none

/-- Render a template under its name. -/
def renderNamed [Liquid.Library] (displayKey : String) (record : Node)
    (template : String × String × Bool) : Except TemplateError (String × Node) :=
  (renderField displayKey record template.2.1 template.2.2).map fun node => (template.1, node)

theorem Field.template?_eq_some_iff {template : String × String × Bool} :
    field.template? = some template ↔
      field.name = template.1 ∧ field.kind = .template template.2.1 template.2.2 := by
  obtain ⟨name, text, tags⟩ := template
  rw [template?]
  cases hkind : field.kind with
  | template text' tags' => simp
  | _ => simp

/-- The templates of fields are rendered one after another. -/
theorem renderFields_eq_mapM [Liquid.Library] (displayKey : String) (record : Node) :
    ∀ fields : List Field, renderFields displayKey record fields =
      (fields.filterMap Field.template?).mapM (renderNamed displayKey record)
  | [] => rfl
  | field :: rest => by
    rw [renderFields, List.filterMap_cons, Field.template?,
      renderFields_eq_mapM displayKey record rest]
    cases field.kind with
    | template text tags =>
      simp only [List.mapM_cons, renderNamed]
      cases renderField displayKey record text tags <;> rfl
    | _ => rfl

/-- Exchanged fields have the same templates. -/
theorem filterMap_template?_of_exchanged {fields fields' : List Field}
    (h : List.Forall₂ (Field.Exchanged old new) fields fields') :
    fields.filterMap Field.template? = fields'.filterMap Field.template? := by
  have htemplate : ∀ {field field' : Field}, Field.Exchanged old new field field' →
      field.template? = field'.template? := by
    rintro field field' (_ | _ | _) <;> rfl
  induction h with
  | nil => rfl
  | cons hfield _ ih => rw [List.filterMap_cons, List.filterMap_cons, htemplate hfield, ih]

namespace Registry

variable {registry other : Registry} {displayKey : String} {entries : List (String × Json)}

/-! ## Dumps that do not reach the old schema -/

theorem dump_object [Liquid.Library] : registry.dump displayKey schema (.object entries) =
    schema.fields.mapM (registry.dumpField displayKey schema entries) >>= fun nodes =>
      finishRecord displayKey schema (nodes.filterMap id) := by
  rw [dump]

theorem nodeCongruence_eq : NodeCongruence (· = ·) :=
  ⟨fun _ => rfl, fun h => congrArg Node.list (List.forall₂_eq_eq_eq ▸ h)⟩

/-- Fields that come with the same name and the same node are the same. -/
theorem eq_of_forall₂_sameName {nodes nodes' : List (Option (String × Node))}
    (h : List.Forall₂ (Option.Rel (SameName (· = ·))) nodes nodes') : nodes = nodes' := by
  refine List.forall₂_eq_eq_eq ▸ h.imp ?_
  rintro _ _ (⟨hname, hnode⟩ | _)
  · exact congrArg some (Prod.ext hname hnode)
  · rfl

/-- **A dump that passes no object to the old schema is as it was.**  By induction on the size of
the data. -/
theorem dump_agree_of_unreached [Liquid.Library]
    (hregistry : Registry.Exchanged old new registry other) {v : Json}
    (hschema : Schema.Exchanged old new schema schema')
    (hreach : ∀ entries, v = .object entries → ∀ inner,
      ¬ReflTransGen registry.Passes (schema, entries) (old, inner)) :
    Agree (· = ·) (registry.dump displayKey schema v) (other.dump displayKey schema' v) := by
  induction hn : sizeOf v using Nat.strongRecOn generalizing v schema schema' with
  | _ n ih =>
    subst hn
    cases v with
    | object entries =>
      rcases hschema.here_or_fields with ⟨rfl, -⟩ | ⟨hfields, hdisplay⟩
      · exact absurd .refl (hreach entries rfl entries)
      · have hnodes : Agree (List.Forall₂ (Option.Rel (SameName (· = ·))))
            (schema.fields.mapM (registry.dumpField displayKey schema entries))
            (schema'.fields.mapM (other.dumpField displayKey schema' entries)) := by
          refine Agree.mapM hfields fun field hfield field' hexchanged => ?_
          refine dumpField_agree nodeCongruence_eq hregistry hschema hexchanged
            fun target target' htarget htargets w hw => ?_
          exact ih (sizeOf w) (Nat.lt_of_le_of_lt (FieldKind.sizeOf_le_of_mem_instances hw)
            (Json.sizeOf_entryOf_lt field.name entries)) htargets
            (fun below hbelow inner hinner => hreach entries rfl inner
              (.head ⟨field, hfield, htarget, hbelow ▸ hw⟩ hinner)) rfl
        rw [dump_object, dump_object]
        refine hnodes.bind fun nodes nodes' _ _ hsame => Agree.of_eq ?_
        rw [eq_of_forall₂_sameName hsame, finishRecord, finishRecord, renderFields_eq_mapM,
          renderFields_eq_mapM, filterMap_template?_of_exchanged hfields, hdisplay]
    | _ =>
      rw [dump_of_ne_object rfl, dump_of_ne_object rfl]
      exact .ok rfl

end Registry

end TagTemplates
