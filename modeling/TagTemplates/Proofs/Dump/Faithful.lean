import TagTemplates.Proofs.Dump.Record

/-!
# Faithful records

A record is filled in three stages: the plain fields, the rendered templates, and the display once
more under the display key.  An entry that is put in later can take the place of an earlier one, so
it is told here which entries a dumped record has and whose values they hold.

* `Node.fieldKeys`: the keys of a record, and how they grow.
* `Registry.ownNode`: the value of a field by itself.
* `Registry.Faithful`: what a dumped record is by its schema.
* `faithful_of_dump`: it is that, for every schema and every object.  A field that is declared under
  the display key loses its entry to another field that is the display.
-/

namespace TagTemplates

/-! ## Keys -/

namespace Node

/-- The keys of a record. -/
def fieldKeys (fields : List (String × Node)) : List String := fields.map Prod.fst

variable {key other : String} {node : Node} {fields nodes : List (String × Node)}

/-- What is found under a key is in the record. -/
theorem mem_of_fieldAt?_eq_some (h : fieldAt? key fields = some node) : (key, node) ∈ fields := by
  induction fields with
  | nil => exact absurd h (by simp [fieldAt?])
  | cons e rest ih =>
    obtain ⟨k, n⟩ := e
    rw [fieldAt?] at h
    by_cases hk : k = key
    · rw [if_pos hk] at h
      rw [hk, Option.some.inj h]
      exact List.mem_cons_self
    · rw [if_neg hk] at h
      exact List.mem_cons_of_mem (k, n) (ih h)

/-- A value that is put under a key brings no other key with it. -/
theorem mem_fieldKeys_putField_iff :
    other ∈ fieldKeys (putField key node fields) ↔ other = key ∨ other ∈ fieldKeys fields := by
  induction fields with
  | nil => simp [putField, fieldKeys]
  | cons e rest ih =>
    obtain ⟨k, n⟩ := e
    rw [putField]
    by_cases hk : k = key
    · rw [if_pos hk, hk]
      simp [fieldKeys]
    · rw [if_neg hk]
      simp only [fieldKeys, List.map_cons, List.mem_cons] at ih ⊢
      rw [ih]
      exact or_left_comm

/-- A value that is there already changes nothing. -/
theorem putField_eq_self (h : fieldAt? key fields = some node) : putField key node fields = fields := by
  induction fields with
  | nil => exact absurd h (by simp [fieldAt?])
  | cons e rest ih =>
    obtain ⟨k, n⟩ := e
    rw [fieldAt?] at h
    rw [putField]
    by_cases hk : k = key
    · rw [if_pos hk] at h ⊢
      rw [Option.some_inj.mp h]
    · rw [if_neg hk] at h ⊢
      rw [ih h]

/-- A key that is there already is not put in once more. -/
theorem nodup_fieldKeys_putField (h : (fieldKeys fields).Nodup) :
    (fieldKeys (putField key node fields)).Nodup := by
  induction fields with
  | nil => simp [putField, fieldKeys]
  | cons e rest ih =>
    obtain ⟨k, n⟩ := e
    obtain ⟨hfresh, hrest⟩ : k ∉ fieldKeys rest ∧ (fieldKeys rest).Nodup := List.nodup_cons.mp h
    rw [putField]
    by_cases hk : k = key
    · rw [if_pos hk]
      exact h
    · rw [if_neg hk]
      refine List.nodup_cons.mpr ⟨fun hmem => ?_, ih hrest⟩
      rcases mem_fieldKeys_putField_iff.mp hmem with heq | hmem
      · exact hk heq
      · exact hfresh hmem

theorem mem_fieldKeys_insertFields_iff : ∀ {nodes fields : List (String × Node)},
    key ∈ fieldKeys (insertFields nodes fields) ↔ key ∈ keys nodes ∨ key ∈ fieldKeys fields
  | [], fields => by simp [insertFields, keys]
  | e :: nodes, fields => by
    have hkeys : keys (e :: nodes) = Text.fold e.1 :: keys nodes := rfl
    rw [insertFields_cons, mem_fieldKeys_insertFields_iff, insertField, mem_fieldKeys_putField_iff,
      hkeys, List.mem_cons]
    exact or_left_comm.trans or_assoc.symm

theorem nodup_fieldKeys_insertFields : ∀ {nodes fields : List (String × Node)},
    (fieldKeys fields).Nodup → (fieldKeys (insertFields nodes fields)).Nodup
  | [], _, h => h
  | e :: nodes, fields, h => by
    have hput : (fieldKeys (insertField e.1 e.2 fields)).Nodup := nodup_fieldKeys_putField h
    rw [insertFields_cons]
    exact nodup_fieldKeys_insertFields hput

end Node

/-! ## Values -/

/-- What a nested field holds when the schema behind it is not registered: its data as they are. -/
def Field.rawNode (field : Field) (displayKey : String) (v : Json) : Node :=
  if field.kind.isMany then
    match v with
    | .array items => .list (items.map (Node.ofJson displayKey))
    | _ => .missing
  else .ofJson displayKey v

namespace Registry

variable {registry : Registry} {displayKey : String} {schema : Schema}
  {entries : List (String × Json)} {field : Field}

/-- The display is put under the display key, whether or not it is declared there itself. -/
theorem aliasDisplay_eq_putField {fields : List (String × Node)} {own : Node}
    (hdisplay : schema.display = some field.key) (hown : Node.fieldAt? field.key fields = some own) :
    aliasDisplay displayKey schema.display fields =
      Node.putField (Text.fold displayKey) own fields := by
  have hfold : Text.fold field.key = field.key := Text.fold_fold field.name
  rw [hdisplay, aliasDisplay]
  by_cases hsame : Text.sameName field.key displayKey = true
  · have hkey : field.key = Text.fold displayKey := hfold.symm.trans (Text.sameName_iff.mp hsame)
    rw [if_pos hsame, Node.putField_eq_self (hkey ▸ hown)]
  · rw [if_neg hsame, hfold, hown]
    rfl

/-- A display brings the display key with it. -/
theorem mem_aliasDisplay_iff (hbuilt : schema.Built) {fields : List (String × Node)}
    (hall : ∀ field ∈ schema.fields, ∃ own, Node.fieldAt? field.key fields = some own)
    (key : String) :
    key ∈ Node.fieldKeys (aliasDisplay displayKey schema.display fields) ↔
      key ∈ Node.fieldKeys fields ∨ schema.hasDisplay = true ∧ key = Text.fold displayKey := by
  cases hdisplay : schema.display with
  | none => simp [aliasDisplay, Schema.hasDisplay, hdisplay]
  | some name =>
    obtain ⟨shown, hshown, rfl⟩ := hbuilt.exists_of_display hdisplay
    obtain ⟨own, hown⟩ := hall shown hshown
    rw [← hdisplay, aliasDisplay_eq_putField hdisplay hown, Node.mem_fieldKeys_putField_iff]
    simp [Schema.hasDisplay, hdisplay, or_comm]

theorem nodup_aliasDisplay {fields : List (String × Node)} (display : Option String)
    (h : (Node.fieldKeys fields).Nodup) :
    (Node.fieldKeys (aliasDisplay displayKey display fields)).Nodup := by
  unfold aliasDisplay
  split
  · split
    · exact h
    · split
      · exact Node.nodup_fieldKeys_putField h
      · exact h
  · exact h

section AnyLibrary

variable [Liquid.Library]

/-- The value of a field by itself: the data under its name, dumped through the schema behind a
nested field, and for a template its text rendered from the plain record. -/
def ownNode (registry : Registry) (displayKey : String) (schema : Schema)
    (entries : List (String × Json)) (plain : List (String × Node)) (field : Field) :
    Except TemplateError Node :=
  let v := (Json.object entries).entryOf field.name
  match field.kind with
  | .scalar => .ok (.ofJson displayKey v)
  | .template text tags => renderField displayKey (.record displayKey plain) text tags
  | _ =>
    match registry.target schema field with
    | .ok target => registry.dumpBehind displayKey field target v
    | .error _ => .ok (field.rawNode displayKey v)

/-- What a dumped record is by its schema: `plain` are its entries before the template fields are
rendered, and `fields` are all its entries. -/
structure Faithful (registry : Registry) (displayKey : String) (schema : Schema)
    (entries : List (String × Json)) (plain fields : List (String × Node)) : Prop where
  /-- The plain entries are under the names of the fields that are no templates. -/
  mem_plain : ∀ key, key ∈ Node.fieldKeys plain ↔
    ∃ field ∈ schema.fields, field.kind.isTemplate = false ∧ field.key = key
  nodup_plain : (Node.fieldKeys plain).Nodup
  /-- The entries are under the names of the fields and under the display key of a display. -/
  mem_fields : ∀ key, key ∈ Node.fieldKeys fields ↔
    key ∈ schema.fieldNames ∨ schema.hasDisplay = true ∧ key = Text.fold displayKey
  nodup_fields : (Node.fieldKeys fields).Nodup
  /-- Every field has a value by itself.  A plain entry holds it; so does the entry of every field
  that keeps its entry, and the entry under the display key holds that of the display. -/
  own : ∀ field ∈ schema.fields, ∃ own,
    registry.ownNode displayKey schema entries plain field = .ok own ∧
      (field.kind.isTemplate = false → Node.fieldAt? field.key plain = some own) ∧
      (schema.Keeps displayKey field → Node.fieldAt? field.key fields = some own) ∧
      (schema.display = some field.key → Node.fieldAt? (Text.fold displayKey) fields = some own)

/-- A nested field without a registered schema takes the data as they are. -/
theorem dumpField_raw {e : ResolveError} (h : field.kind.isTerminal = false)
    (htarget : registry.target schema field = .error e) :
    registry.dumpField displayKey schema entries field =
      .ok (some (field.name,
        field.rawNode displayKey ((Json.object entries).entryOf field.name))) := by
  rw [dumpField]
  rcases FieldKind.eq_nested h with ⟨r, hkind⟩ | ⟨r, hkind⟩
  · simp only [Json.entryOf, Field.rawNode, hkind, FieldKind.isMany]
    split
    · next hfound => rw [hfound]; rfl
    · next hfound => rw [hfound]; rfl
    · next v hne hfound =>
      rw [hfound, htarget]
      rfl
  · simp only [Json.entryOf, Field.rawNode, hkind, FieldKind.isMany]
    split
    · next items hfound =>
      rw [hfound, htarget]
      rfl
    · next hnone =>
      cases hfound : Json.lookupName field.name entries with
      | none => rfl
      | some v =>
        cases v with
        | array items => exact absurd hfound (hnone items)
        | _ => rfl

/-- What a field that is no template is dumped to is its value by itself. -/
theorem ownNode_of_dumpField {found : Node} (htemplate : field.kind.isTemplate = false)
    (h : registry.dumpField displayKey schema entries field = .ok (some (field.name, found)))
    (plain : List (String × Node)) :
    registry.ownNode displayKey schema entries plain field = .ok found := by
  have hnested : field.kind.isTerminal = false →
      (match registry.target schema field with
        | .ok target =>
          registry.dumpBehind displayKey field target ((Json.object entries).entryOf field.name)
        | .error _ =>
          .ok (field.rawNode displayKey ((Json.object entries).entryOf field.name))) =
        .ok found := by
    intro hterminal
    cases htarget : registry.target schema field with
    | ok target => exact (dumpField_eq_ok_iff hterminal htarget).mp h
    | error e =>
      rw [dumpField_raw hterminal htarget] at h
      simpa using h
  rw [ownNode]
  cases hkind : field.kind with
  | scalar =>
    rw [dumpField_scalar hkind] at h
    simpa using h
  | template text tags => exact absurd (hkind ▸ htemplate) (by simp [FieldKind.isTemplate])
  | one r => exact hnested (by rw [hkind]; rfl)
  | many r => exact hnested (by rw [hkind]; rfl)

/-- The plain entries of a dumped object. -/
theorem mem_plain_of_dump {nodes : List (Option (String × Node))}
    (h : schema.fields.mapM (registry.dumpField displayKey schema entries) = .ok nodes)
    (key : String) :
    key ∈ Node.fieldKeys (Node.insertFields (nodes.filterMap id) []) ↔
      ∃ field ∈ schema.fields, field.kind.isTemplate = false ∧ field.key = key := by
  rw [Node.mem_fieldKeys_insertFields_iff, or_iff_left (by simp [Node.fieldKeys])]
  constructor
  · intro hmem
    obtain ⟨field, hfield, hkey⟩ :=
      List.mem_map.mp ((keys_sublist_of_mapM_dumpField h).subset hmem)
    obtain ⟨hfield, htemplate⟩ := List.mem_filter.mp hfield
    exact ⟨field, hfield, by simpa using htemplate, hkey⟩
  · rintro ⟨field, hfield, htemplate, rfl⟩
    obtain ⟨found, hfound, -⟩ := exists_mem_of_dumpField h hfield htemplate
    exact List.mem_map.mpr ⟨_, hfound, rfl⟩

/-- Before the display is copied there is an entry for each field and no other. -/
theorem mem_insertFields_of_dump (hbuilt : schema.Built) {nodes : List (Option (String × Node))}
    {record : Node} {rendered : List (String × Node)}
    (hnodes : schema.fields.mapM (registry.dumpField displayKey schema entries) = .ok nodes)
    (hrendered : renderFields displayKey record schema.fields = .ok rendered) (key : String) :
    key ∈ Node.fieldKeys (Node.insertFields rendered (Node.insertFields (nodes.filterMap id) [])) ↔
      key ∈ schema.fieldNames := by
  constructor
  · intro hmem
    rcases Node.mem_fieldKeys_insertFields_iff.mp hmem with hmem | hmem
    · obtain ⟨hkeys, -⟩ := renderFields_eq_ok hrendered
      exact (List.filter_sublist.map Field.key).subset (hkeys.subset hmem)
    · obtain ⟨field, hfield, -, rfl⟩ := (mem_plain_of_dump hnodes key).mp hmem
      exact List.mem_map_of_mem hfield
  · intro hmem
    obtain ⟨field, hfield, rfl⟩ := List.mem_map.mp hmem
    obtain ⟨found, hfound, -⟩ := exists_fieldAt?_insertFields hbuilt hnodes hrendered field hfield
    exact List.mem_map_of_mem (Node.mem_of_fieldAt?_eq_some hfound)

/-- **Dumped records are faithful.**  A record has the entries that its schema declares and each
field has a value by itself; the entry of a field holds that value, unless the field is declared
under the display key and another field is the display. -/
theorem faithful_of_dump (hbuilt : schema.Built) {node : Node}
    (h : registry.dump displayKey schema (.object entries) = .ok node) :
    ∃ plain fields, node = .record displayKey fields ∧
      registry.Faithful displayKey schema entries plain fields := by
  obtain ⟨nodes, rendered, hnodes, hrendered, rfl⟩ := dump_object_eq_ok h
  have hall := exists_fieldAt?_insertFields hbuilt hnodes hrendered
  have hplain : (Node.fieldKeys (Node.insertFields (nodes.filterMap id) [])).Nodup :=
    Node.nodup_fieldKeys_insertFields List.nodup_nil
  refine ⟨_, _, rfl, mem_plain_of_dump hnodes, hplain, fun key => ?_,
    nodup_aliasDisplay _ (Node.nodup_fieldKeys_insertFields hplain), fun field hfield => ?_⟩
  · rw [mem_aliasDisplay_iff hbuilt fun field hfield => ?_,
      mem_insertFields_of_dump hbuilt hnodes hrendered]
    obtain ⟨own, hown, -⟩ := hall field hfield
    exact ⟨own, hown⟩
  · obtain ⟨own, hown, hdump, hrender⟩ := hall field hfield
    refine ⟨own, ?_, fun htemplate => ?_, fun hkeeps => ?_, fun hdisplay => ?_⟩
    · cases htemplate : field.kind.isTemplate with
      | false => exact ownNode_of_dumpField htemplate (hdump htemplate) _
      | true =>
        obtain ⟨text, tags, hkind⟩ := FieldKind.eq_template htemplate
        rw [ownNode]
        simp only [hkind]
        exact hrender text tags hkind
    · obtain ⟨found, hfound, hfield'⟩ := exists_mem_of_dumpField hnodes hfield htemplate
      have hsame := Except.ok.inj ((hdump htemplate).symm.trans hfield')
      rw [(Prod.mk.inj (Option.some_inj.mp hsame)).2]
      refine Node.fieldAt?_insertFields_of_mem ?_ hfound
      exact (keys_sublist_of_mapM_dumpField hnodes).nodup
        (hbuilt.nodup_keys.sublist (List.filter_sublist.map Field.key))
    · rw [fieldAt?_aliasDisplay hkeeps]
      exact hown
    · rw [aliasDisplay_eq_putField hdisplay hown, Node.fieldAt?_putField_self]

end AnyLibrary

/-! ## A page with a label -/

/-- A page shows its title, and it has a label. -/
def pageSchema : Schema := ⟨0, "Page", [⟨"title", .scalar⟩, ⟨"label", .scalar⟩], some "title"⟩

/-- Pages are registered. -/
def pages : Registry := ⟨[pageSchema]⟩

/-- The data of a page. -/
def pageEntries : List (String × Json) := [("title", .string "Home"), ("label", .string "new")]

theorem built_pageSchema : pageSchema.Built :=
  ⟨0, ⟨"Page", pageSchema.fields, some "title"⟩, by decide +kernel⟩

/-- Where records show their labels, a page shows its title as its label. -/
theorem dump_pageSchema : pages.dump "label" pageSchema (.object pageEntries) =
    .ok (.record "label" [("title", .ofText "Home"), ("label", .ofText "Home")]) := by
  rw [dump]
  show ([(⟨"title", .scalar⟩ : Field), ⟨"label", .scalar⟩].mapM
    (pages.dumpField "label" pageSchema pageEntries) >>= _) = _
  rw [List.mapM_cons, List.mapM_cons, List.mapM_nil, dumpField_scalar rfl, dumpField_scalar rfl]
  rfl

/-- The title of a page keeps its entry and stands for the page. -/
theorem faithful_of_dump_page : ∃ plain fields,
    Node.record "label" [("title", .ofText "Home"), ("label", .ofText "Home")] =
      .record "label" fields ∧
    pages.Faithful "label" pageSchema pageEntries plain fields :=
  faithful_of_dump built_pageSchema dump_pageSchema

/-- The label of a page is lost: its entry does not hold its value. -/
theorem fieldAt?_label_ne_ownNode : pageSchema.Built ∧ ∃ fields,
    pages.dump "label" pageSchema (.object pageEntries) = .ok (.record "label" fields) ∧
      ∀ plain, ¬∀ field ∈ pageSchema.fields, ∃ own,
        pages.ownNode "label" pageSchema pageEntries plain field = .ok own ∧
          Node.fieldAt? field.key fields = some own := by
  refine ⟨built_pageSchema, _, dump_pageSchema, fun plain hall => ?_⟩
  obtain ⟨own, hown, hentry⟩ :=
    hall ⟨"label", .scalar⟩ (List.mem_cons_of_mem _ List.mem_cons_self)
  have hnew : own = .ofText "new" := (Except.ok.inj hown).symm
  have hhome : own = .ofText "Home" := (Option.some_inj.mp hentry).symm
  exact absurd (hnew.symm.trans hhome) (by simp [Node.ofText])

end Registry

end TagTemplates
