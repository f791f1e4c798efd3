import Mathlib.Data.List.Nodup
import TagTemplates.Dump
import TagTemplates.Proofs.Schema.Built
import TagTemplates.Proofs.Text.Basic

/-!
# The record of a dumped object

A dumped object is a record, and what it holds for a field of its schema depends on that field and
on the data under its name alone: the other fields, the rendered templates and the copy of the
display do not get in the way.

* `Json.entryOf`, `Json.itemOf`: what data hold for a name and at an index.
* `Schema.Reserves`: no field is declared under the display key, except the display itself.
* `Schema.Keeps`: the display is not copied over a field.
* `Registry.dumpItems`, `Registry.dumpBehind`, `Registry.plainRecord`: what a field of a dumped
  object is made of.
* `exists_fieldAt?_of_dump`: it is that.
-/

namespace TagTemplates

namespace Json

/-- What a value holds for a name: null when there is nothing. -/
def entryOf (name : String) : Json → Json
  | object entries => (lookupName name entries).getD .null
  | _ => .null

/-- What a value holds at an index: null when there is nothing. -/
def itemOf (index : Nat) : Json → Json
  | array items => items[index]?.getD .null
  | _ => .null

end Json

/-! ## Fields that are put into a record -/

namespace Node

/-- The folded names that nodes come with. -/
def keys (nodes : List (String × Node)) : List String := nodes.map fun e => Text.fold e.1

variable {key name : String} {node : Node}

theorem insertFields_cons (e : String × Node) (nodes fields : List (String × Node)) :
    insertFields (e :: nodes) fields = insertFields nodes (insertField e.1 e.2 fields) := rfl

/-- Nodes under other names leave a field alone. -/
theorem fieldAt?_insertFields_of_notMem : ∀ {nodes fields : List (String × Node)},
    key ∉ keys nodes → fieldAt? key (insertFields nodes fields) = fieldAt? key fields
  | [], _, _ => rfl
  | e :: nodes, fields, h => by
    rw [keys, List.map_cons, List.mem_cons, not_or] at h
    rw [insertFields_cons, fieldAt?_insertFields_of_notMem h.2, insertField,
      fieldAt?_putField_of_ne h.1]

/-- Of nodes with different names each one is found under its name. -/
theorem fieldAt?_insertFields_of_mem : ∀ {nodes fields : List (String × Node)},
    (keys nodes).Nodup → (name, node) ∈ nodes →
      fieldAt? (Text.fold name) (insertFields nodes fields) = some node
  | [], _, _, hmem => absurd hmem (by simp)
  | e :: nodes, fields, hnodup, hmem => by
    rw [keys, List.map_cons, List.nodup_cons] at hnodup
    rw [insertFields_cons]
    rcases List.mem_cons.mp hmem with rfl | hmem
    · rw [fieldAt?_insertFields_of_notMem hnodup.1, insertField, fieldAt?_putField_self]
    · exact fieldAt?_insertFields_of_mem hnodup.2 hmem

end Node

/-! ## Fields that are rendered -/

theorem FieldKind.eq_template : ∀ {kind : FieldKind}, kind.isTemplate = true →
    ∃ text tags, kind = .template text tags
  | .template text tags, _ => ⟨text, tags, rfl⟩

/-- A path goes on behind references and lists of references only. -/
theorem FieldKind.eq_nested : ∀ {kind : FieldKind}, kind.isTerminal = false →
    (∃ r, kind = .one r) ∨ ∃ r, kind = .many r
  | .one r, _ => Or.inl ⟨r, rfl⟩
  | .many r, _ => Or.inr ⟨r, rfl⟩

theorem FieldKind.eq_terminal : ∀ {kind : FieldKind}, kind.isTerminal = true →
    kind = .scalar ∨ ∃ text tags, kind = .template text tags
  | .scalar, _ => Or.inl rfl
  | .template text tags, _ => Or.inr ⟨text, tags, rfl⟩

/-- The rendered nodes are those of the template fields. -/
theorem renderFields_eq_ok [Liquid.Library] {displayKey : String} {record : Node} :
    ∀ {fields : List Field} {rendered : List (String × Node)},
      renderFields displayKey record fields = .ok rendered →
        (Node.keys rendered).Sublist ((fields.filter fun f => f.kind.isTemplate).map Field.key) ∧
          ∀ field ∈ fields, ∀ text tags, field.kind = .template text tags →
            ∃ node, (field.name, node) ∈ rendered ∧
              renderField displayKey record text tags = .ok node
  | [], rendered, h => by
    rw [renderFields] at h
    obtain rfl : [] = rendered := Except.ok.inj h
    exact ⟨List.Sublist.slnil, by simp⟩
  | field :: rest, rendered, h => by
    rw [renderFields] at h
    by_cases htemplate : field.kind.isTemplate = true
    · obtain ⟨text, tags, hkind⟩ := FieldKind.eq_template htemplate
      simp only [hkind] at h
      obtain ⟨node, hnode, h⟩ := bind_eq_ok_iff.mp h
      obtain ⟨others, hothers, h⟩ := bind_eq_ok_iff.mp h
      obtain rfl : (field.name, node) :: others = rendered := Except.ok.inj h
      obtain ⟨hkeys, hall⟩ := renderFields_eq_ok hothers
      rw [List.filter_cons, if_pos htemplate]
      refine ⟨hkeys.cons_cons _, fun other hother text' tags' hkind' => ?_⟩
      rcases List.mem_cons.mp hother with rfl | hother
      · obtain ⟨rfl, rfl⟩ := FieldKind.template.inj (hkind.symm.trans hkind')
        exact ⟨node, List.mem_cons_self, hnode⟩
      · obtain ⟨found, hfound, hrender⟩ := hall other hother text' tags' hkind'
        exact ⟨found, List.mem_cons_of_mem _ hfound, hrender⟩
    · have hnext : renderFields displayKey record rest = .ok rendered := by
        cases hkind : field.kind with
        | template text tags => simp [FieldKind.isTemplate, hkind] at htemplate
        | _ => simpa only [hkind] using h
      obtain ⟨hkeys, hall⟩ := renderFields_eq_ok hnext
      rw [List.filter_cons, if_neg htemplate]
      refine ⟨hkeys, fun other hother text tags hkind => ?_⟩
      rcases List.mem_cons.mp hother with rfl | hother
      · exact absurd (by rw [hkind]; rfl) htemplate
      · exact hall other hother text tags hkind

/-! ## The display -/

/-- No field is declared under the display key, except the display itself. -/
def Schema.Reserves (schema : Schema) (displayKey : String) : Prop :=
  ∀ field ∈ schema.fields, field.key = Text.fold displayKey → schema.display = some field.key

/-- The entry of this field stays its own: another field that is the display is not copied over
it. -/
def Schema.Keeps (schema : Schema) (displayKey : String) (field : Field) : Prop :=
  field.key = Text.fold displayKey → ∀ name, schema.display = some name → name = field.key

theorem Schema.Reserves.keeps {schema : Schema} {displayKey : String}
    (h : schema.Reserves displayKey) {field : Field} (hfield : field ∈ schema.fields) :
    schema.Keeps displayKey field := by
  intro hkey name hname
  exact Option.some_inj.mp (hname.symm.trans (h field hfield hkey))

/-- The copy of the display leaves a field alone that keeps its entry. -/
theorem fieldAt?_aliasDisplay {schema : Schema} {displayKey : String} {field : Field}
    (h : schema.Keeps displayKey field) (nodes : List (String × Node)) :
    Node.fieldAt? field.key (aliasDisplay displayKey schema.display nodes) =
      Node.fieldAt? field.key nodes := by
  cases hdisplay : schema.display with
  | none => rfl
  | some name =>
    rw [aliasDisplay]
    by_cases hsame : Text.sameName name displayKey = true
    · rw [if_pos hsame]
    · have hne : field.key ≠ Text.fold displayKey := by
        intro hkey
        refine hsame (Text.sameName_iff.mpr ?_)
        rw [h hkey name hdisplay, hkey, Text.fold_fold]
      rw [if_neg hsame]
      cases Node.fieldAt? (Text.fold name) nodes with
      | none => rfl
      | some node => exact Node.fieldAt?_putField_of_ne hne node nodes

/-! ## Fields that are dumped -/

namespace Registry

variable {registry : Registry} {displayKey : String} {schema : Schema}
  {entries : List (String × Json)} {field : Field}

/-- A field is known by its folded name. -/
theorem eq_of_key_eq (hbuilt : schema.Built) {other : Field} (hfield : field ∈ schema.fields)
    (hother : other ∈ schema.fields) (hkey : field.key = other.key) : field = other :=
  List.inj_on_of_nodup_map hbuilt.nodup_keys hfield hother hkey

variable [Liquid.Library]

/-- Dump a list as instances of a schema. -/
def dumpItems (registry : Registry) (displayKey : String) (schema : Schema) :
    Json → Except TemplateError Node
  | .array items => do return .list (← items.mapM (registry.dump displayKey schema))
  | _ => .ok .missing

/-- Dump what a nested field holds through the schema behind the field. -/
def dumpBehind (registry : Registry) (displayKey : String) (field : Field) (target : Schema)
    (v : Json) : Except TemplateError Node :=
  if field.kind.isMany then registry.dumpItems displayKey target v
  else registry.dump displayKey target v

/-- The record of an object before its template fields are rendered. -/
def plainRecord (registry : Registry) (displayKey : String) (schema : Schema)
    (entries : List (String × Json)) : Except TemplateError Node := do
  let nodes ← schema.fields.mapM (registry.dumpField displayKey schema entries)
  return .record displayKey (Node.insertFields (nodes.filterMap id) [])

theorem dump_of_ne_object {v : Json} (h : v.object? = none) :
    registry.dump displayKey schema v = .ok .missing := by
  cases v with
  | object entries => exact absurd h (by simp [Json.object?])
  | _ => simp [dump]

/-- A template field has to wait. -/
theorem dumpField_template {text : String} {tags : Bool} (h : field.kind = .template text tags) :
    registry.dumpField displayKey schema entries field = .ok none := by
  rw [dumpField]
  simp only [h]

/-- A plain field takes the data as they are. -/
theorem dumpField_scalar (h : field.kind = .scalar) :
    registry.dumpField displayKey schema entries field =
      .ok (some (field.name,
        Node.ofJson displayKey ((Json.object entries).entryOf field.name))) := by
  rw [dumpField]
  simp only [h, Json.entryOf]
  cases Json.lookupName field.name entries with
  | none => rfl
  | some v => rfl

/-- A nested field is dumped through the schema behind it. -/
theorem dumpField_one {r : SchemaRef} {target : Schema} (h : field.kind = .one r)
    (htarget : registry.target schema field = .ok target) :
    registry.dumpField displayKey schema entries field =
      (registry.dump displayKey target ((Json.object entries).entryOf field.name)).map
        fun node => some (field.name, node) := by
  have hnull : registry.dump displayKey target .null = .ok .missing := dump_of_ne_object rfl
  rw [dumpField]
  simp only [h, Json.entryOf]
  split
  · next hfound =>
    simp only [hfound, Option.getD_none, hnull]
    rfl
  · next hfound =>
    simp only [hfound, Option.getD_some, hnull]
    rfl
  · next v hne hfound =>
    simp only [hfound, htarget, Option.getD_some]
    cases registry.dump displayKey target v <;> rfl

/-- A list field is dumped item by item. -/
theorem dumpField_many {r : SchemaRef} {target : Schema} (h : field.kind = .many r)
    (htarget : registry.target schema field = .ok target) :
    registry.dumpField displayKey schema entries field =
      (registry.dumpItems displayKey target ((Json.object entries).entryOf field.name)).map
        fun node => some (field.name, node) := by
  rw [dumpField]
  simp only [h, Json.entryOf]
  split
  · next items hfound =>
    rw [hfound, htarget]
    simp only [Option.getD_some, dumpItems]
    rw [List.mapM_subtype fun _ _ => rfl, List.unattach_attach]
    cases items.mapM (registry.dump displayKey target) <;> rfl
  · next hnone =>
    cases hfound : Json.lookupName field.name entries with
    | none => rfl
    | some v =>
      cases v with
      | array items => exact absurd hfound (hnone items)
      | _ => rfl

/-- A nested field is dumped by what it holds, and comes with its name. -/
theorem dumpField_nested {target : Schema} (h : field.kind.isTerminal = false)
    (htarget : registry.target schema field = .ok target) :
    registry.dumpField displayKey schema entries field =
      (registry.dumpBehind displayKey field target ((Json.object entries).entryOf field.name)).map
        fun node => some (field.name, node) := by
  rcases FieldKind.eq_nested h with ⟨r, hkind⟩ | ⟨r, hkind⟩
  · rw [dumpField_one hkind htarget, dumpBehind, hkind]
    rfl
  · rw [dumpField_many hkind htarget, dumpBehind, hkind]
    rfl

/-- A nested field comes with the dump of what it holds. -/
theorem dumpField_eq_ok_iff {target : Schema} {found : Node} (h : field.kind.isTerminal = false)
    (htarget : registry.target schema field = .ok target) :
    registry.dumpField displayKey schema entries field = .ok (some (field.name, found)) ↔
      registry.dumpBehind displayKey field target ((Json.object entries).entryOf field.name) =
        .ok found := by
  rw [dumpField_nested h htarget]
  cases registry.dumpBehind displayKey field target ((Json.object entries).entryOf field.name) with
  | error e => simp [Except.map]
  | ok node => simp [Except.map]

/-- Template fields wait, and every other field comes with its name. -/
theorem dumpField_eq_ok {result : Option (String × Node)}
    (h : registry.dumpField displayKey schema entries field = .ok result) :
    (field.kind.isTemplate = true ∧ result = none) ∨
      (field.kind.isTemplate = false ∧ ∃ node, result = some (field.name, node)) := by
  cases hkind : field.kind with
  | template text tags =>
    rw [dumpField_template hkind] at h
    exact Or.inl ⟨rfl, (Except.ok.inj h).symm⟩
  | scalar =>
    rw [dumpField_scalar hkind] at h
    exact Or.inr ⟨rfl, _, (Except.ok.inj h).symm⟩
  | one r =>
    refine Or.inr ⟨rfl, ?_⟩
    rw [dumpField] at h
    simp only [hkind] at h
    split at h
    · exact ⟨_, (Except.ok.inj h).symm⟩
    · exact ⟨_, (Except.ok.inj h).symm⟩
    · split at h
      · obtain ⟨node, -, h⟩ := bind_eq_ok_iff.mp h
        exact ⟨node, (Except.ok.inj h).symm⟩
      · exact ⟨_, (Except.ok.inj h).symm⟩
  | many r =>
    refine Or.inr ⟨rfl, ?_⟩
    rw [dumpField] at h
    simp only [hkind] at h
    split at h
    · split at h
      · obtain ⟨nodes, -, h⟩ := bind_eq_ok_iff.mp h
        exact ⟨_, (Except.ok.inj h).symm⟩
      · exact ⟨_, (Except.ok.inj h).symm⟩
    · exact ⟨_, (Except.ok.inj h).symm⟩

/-- The dumped nodes are those of the fields that are no templates. -/
theorem keys_sublist_of_mapM_dumpField {fields : List Field} {nodes : List (Option (String × Node))}
    (h : fields.mapM (registry.dumpField displayKey schema entries) = .ok nodes) :
    (Node.keys (nodes.filterMap id)).Sublist
      ((fields.filter fun f => !f.kind.isTemplate).map Field.key) := by
  have hall := mapM_eq_ok_iff.mp h
  clear h
  induction hall with
  | nil => exact List.Sublist.slnil
  | @cons f result fields nodes hf _ ih =>
    rcases dumpField_eq_ok hf with ⟨htemplate, rfl⟩ | ⟨htemplate, node, rfl⟩
    · rw [List.filter_cons, if_neg (by simp [htemplate])]
      exact ih
    · rw [List.filter_cons, if_pos (by simp [htemplate])]
      exact ih.cons_cons f.key

/-- A field that is no template is dumped, and its node stands among the others. -/
theorem exists_mem_of_dumpField {nodes : List (Option (String × Node))}
    (h : schema.fields.mapM (registry.dumpField displayKey schema entries) = .ok nodes)
    (hfield : field ∈ schema.fields) (htemplate : field.kind.isTemplate = false) :
    ∃ found, (field.name, found) ∈ nodes.filterMap id ∧
      registry.dumpField displayKey schema entries field = .ok (some (field.name, found)) := by
  obtain ⟨result, hresult, hdump⟩ := exists_mem_of_mapM_eq_ok h hfield
  rcases dumpField_eq_ok hdump with ⟨hnot, -⟩ | ⟨-, found, rfl⟩
  · exact absurd (htemplate.symm.trans hnot) (by simp)
  · exact ⟨found, List.mem_filterMap.mpr ⟨_, hresult, rfl⟩, hdump⟩

/-- What a dumped object is made of. -/
theorem dump_object_eq_ok {node : Node}
    (h : registry.dump displayKey schema (.object entries) = .ok node) :
    ∃ nodes rendered,
      schema.fields.mapM (registry.dumpField displayKey schema entries) = .ok nodes ∧
      renderFields displayKey (.record displayKey (Node.insertFields (nodes.filterMap id) []))
        schema.fields = .ok rendered ∧
      node = .record displayKey (aliasDisplay displayKey schema.display
        (Node.insertFields rendered (Node.insertFields (nodes.filterMap id) []))) := by
  rw [dump] at h
  obtain ⟨nodes, hnodes, h⟩ := bind_eq_ok_iff.mp h
  rw [finishRecord] at h
  obtain ⟨rendered, hrendered, h⟩ := bind_eq_ok_iff.mp h
  exact ⟨nodes, rendered, hnodes, hrendered, (Except.ok.inj h).symm⟩

/-- Before the display is copied, a template field is found as it is rendered from the plain record,
and any other field as it is dumped alone. -/
theorem exists_fieldAt?_insertFields (hbuilt : schema.Built) {nodes : List (Option (String × Node))}
    {record : Node} {rendered : List (String × Node)}
    (hnodes : schema.fields.mapM (registry.dumpField displayKey schema entries) = .ok nodes)
    (hrendered : renderFields displayKey record schema.fields = .ok rendered) :
    ∀ field ∈ schema.fields, ∃ found,
      Node.fieldAt? field.key
          (Node.insertFields rendered (Node.insertFields (nodes.filterMap id) [])) = some found ∧
        (field.kind.isTemplate = false →
          registry.dumpField displayKey schema entries field = .ok (some (field.name, found))) ∧
        ∀ text tags, field.kind = .template text tags →
          renderField displayKey record text tags = .ok found := by
  intro field hfield
  obtain ⟨hkeys, hall⟩ := renderFields_eq_ok hrendered
  have hplain := keys_sublist_of_mapM_dumpField hnodes
  by_cases htemplate : field.kind.isTemplate = true
  · obtain ⟨text, tags, hkind⟩ := FieldKind.eq_template htemplate
    obtain ⟨found, hfound, hrender⟩ := hall field hfield text tags hkind
    have hnodup : (Node.keys rendered).Nodup :=
      hkeys.nodup (hbuilt.nodup_keys.sublist (List.filter_sublist.map Field.key))
    refine ⟨found, Node.fieldAt?_insertFields_of_mem hnodup hfound,
      fun hnot => absurd (htemplate.symm.trans hnot) (by simp), fun text' tags' hkind' => ?_⟩
    obtain ⟨rfl, rfl⟩ := FieldKind.template.inj (hkind.symm.trans hkind')
    exact hrender
  · rw [Bool.not_eq_true] at htemplate
    obtain ⟨found, hfound, hdump⟩ := exists_mem_of_dumpField hnodes hfield htemplate
    have hnodup : (Node.keys (nodes.filterMap id)).Nodup :=
      hplain.nodup (hbuilt.nodup_keys.sublist (List.filter_sublist.map Field.key))
    have hfresh : field.key ∉ Node.keys rendered := by
      intro hin
      obtain ⟨other, hother, hkey⟩ := List.mem_map.mp (hkeys.subset hin)
      obtain ⟨hother, hothertemplate⟩ := List.mem_filter.mp hother
      obtain rfl := eq_of_key_eq hbuilt hother hfield hkey
      exact absurd (htemplate.symm.trans hothertemplate) (by simp)
    refine ⟨found, ?_, fun _ => hdump, fun text tags hkind => ?_⟩
    · rw [Node.fieldAt?_insertFields_of_notMem hfresh]
      exact Node.fieldAt?_insertFields_of_mem hnodup hfound
    · rw [hkind] at htemplate
      exact absurd htemplate (by simp [FieldKind.isTemplate])

/-- **The fields of a dumped object.**  Each is found under its name: a template field as it is
rendered from the plain record, any other field as it is dumped alone. -/
theorem exists_fieldAt?_of_dump (hbuilt : schema.Built) (hreserves : schema.Reserves displayKey)
    {node : Node} (h : registry.dump displayKey schema (.object entries) = .ok node) :
    ∃ fields plain, node = .record displayKey fields ∧
      registry.plainRecord displayKey schema entries = .ok plain ∧
      ∀ field ∈ schema.fields, ∃ found, Node.fieldAt? field.key fields = some found ∧
        (field.kind.isTemplate = false →
          registry.dumpField displayKey schema entries field = .ok (some (field.name, found))) ∧
        ∀ text tags, field.kind = .template text tags →
          renderField displayKey plain text tags = .ok found := by
  obtain ⟨nodes, rendered, hnodes, hrendered, rfl⟩ := dump_object_eq_ok h
  refine ⟨_, _, rfl, bind_eq_ok_iff.mpr ⟨nodes, hnodes, rfl⟩, fun field hfield => ?_⟩
  rw [fieldAt?_aliasDisplay (hreserves.keeps hfield)]
  exact exists_fieldAt?_insertFields hbuilt hnodes hrendered field hfield

end Registry

end TagTemplates
