import TagTemplates.Proofs.Dump.Isolation
import TagTemplates.Proofs.Liquid.Lookups

/-!
# The order in which fields are declared

The fields of a schema are dumped one after another, and so are its templates rendered.  The order
decides which error comes first and in which order the entries of a record stand, but not whether a
dump succeeds, nor what the record holds under each key.

A template sees the order of the entries in records that it goes over.  Where the object holds other
records of its schema, the templates have to take records as mappings; where it does not, they may
be any.

* `Arranged`, `Node.SameInserted`: fields in another order, and nodes that make the same entries.
* `Registry.mapM_dumpField_arranged`, `renderFields_agree`: the fields and the templates of a
  schema, in another order.
* `Registry.RendersMappings`: templates that take records as mappings, with
  `Registry.rendersMappings_of_isFlat` for data without records inside records.
* `Registry.dump_agree_of_perm`: any object, with such templates.
* `Registry.template_fields_isolated`: what another text of a template field and another order of
  the fields change.
-/

namespace TagTemplates

open Relation

/-! ## Another order -/

/-- The same fields, or fields with different names in another order. -/
inductive Arranged (fields : List Field) : List Field → Prop where
  | same : Arranged fields fields
  | perm {fields' : List Field} : (fields.map Field.key).Nodup → fields.Perm fields' →
      Arranged fields fields'

namespace Node

variable {nodes nodes' fields others : List (String × Node)}

/-- The nodes make the same entries, in whatever record they are put. -/
def SameInserted (nodes nodes' : List (String × Node)) : Prop :=
  ∀ fields key, fieldAt? key (insertFields nodes fields) = fieldAt? key (insertFields nodes' fields)

theorem sizeOf_fieldAt?_lt {key : String} {n : Node} (h : fieldAt? key fields = some n) :
    sizeOf n < sizeOf fields := by
  have hlt := List.sizeOf_lt_of_mem (mem_of_fieldAt?_eq_some h)
  rw [Prod.mk.sizeOf_spec] at hlt
  omega

/-- A node is alike to itself.  By induction on its size, since entries are looked up. -/
theorem Alike.refl (n : Node) : n.Alike n := by
  induction hn : sizeOf n using Nat.strongRecOn generalizing n with
  | _ size ih =>
    subst hn
    cases n with
    | missing => exact .missing
    | scalar value => exact .scalar value
    | list items =>
      refine .list (List.forall₂_same.mpr fun item hitem => ih (sizeOf item) ?_ item rfl)
      have hlt := List.sizeOf_lt_of_mem hitem
      rw [list.sizeOf_spec]
      omega
    | record displayKey fields =>
      refine .record fun key => ?_
      cases hfound : fieldAt? key fields with
      | none => exact .none
      | some inner =>
        refine .some (ih (sizeOf inner) ?_ inner rfl)
        have hlt := sizeOf_fieldAt?_lt hfound
        rw [record.sizeOf_spec]
        omega

/-- The node is a record of plain values. -/
def isFlat : Node → Bool
  | .record _ fields => fields.all fun e => match e.2 with
    | .missing | .scalar _ => true
    | _ => false
  | _ => false

/-- Records of plain values give the same values as records that are alike. -/
theorem Alike.sameReads_of_isFlat {n m : Node} (h : n.Alike m) (hflat : n.isFlat = true) :
    n.SameReads m := by
  cases h with
  | @record displayKey fields others hfields =>
    refine sameReads_of_fieldAt? fun key => ?_
    have hkey := hfields key
    cases hfound : fieldAt? key fields with
    | none =>
      rw [hfound] at hkey
      generalize fieldAt? key others = other at hkey
      cases hkey
      rfl
    | some node =>
      rw [hfound] at hkey
      have hplain := List.all_eq_true.mp hflat _ (mem_of_fieldAt?_eq_some hfound)
      generalize fieldAt? key others = other at hkey
      cases hkey with
      | some halike =>
        cases halike with
        | missing => rfl
        | scalar value => rfl
        | list _ => exact absurd hplain Bool.false_ne_true
        | record _ => exact absurd hplain Bool.false_ne_true
  | _ => exact absurd hflat Bool.false_ne_true

end Node

namespace Registry

variable {old new schema schema' : Schema}

/-- Where a schema is exchanged for itself with its fields in another order, every schema keeps its
fields up to their order. -/
theorem exists_arranged (hnodup : (old.fields.map Field.key).Nodup)
    (hperm : old.fields.Perm new.fields) (hdisplay : new.display = old.display)
    (h : Schema.Exchanged old new schema schema') :
    ∃ middle, List.Forall₂ (Field.Exchanged old new) schema.fields middle ∧
      Arranged middle schema'.fields ∧ schema'.display = schema.display := by
  rcases h.here_or_fields with ⟨rfl, rfl⟩ | ⟨hfields, hsame⟩
  · exact ⟨_, List.forall₂_same.mpr fun field _ => .same field, .perm hnodup hperm, hdisplay⟩
  · exact ⟨_, hfields, .same, hsame⟩

theorem nodeCongruence_alike : NodeCongruence Node.Alike :=
  ⟨Node.Alike.refl, .list⟩

end Registry

/-! ## Templates in another order -/

section AnyLibrary

variable [Liquid.Library] {displayKey : String} {fields middle fields' : List Field} {n m : Node}

/-- A template is rendered the same from records that give the same values. -/
theorem renderField_of_sameReads (h : n.SameReads m) (text : String) (tags : Bool) :
    renderField displayKey n text tags = renderField displayKey m text tags := by
  have hrender : renderTemplate displayKey n = renderTemplate displayKey m := by
    funext source
    rw [renderTemplate, renderTemplate]
    simp only [Liquid.Template.render_congr h]
  rw [renderField, renderField, hrender]

/-- **Templates are rendered with agreement in another order**, when the two records are rendered
the same. -/
theorem renderFields_agree
    (htemplates : fields.filterMap Field.template? = middle.filterMap Field.template?)
    (harranged : Arranged middle fields')
    (hreads : ∀ field ∈ fields, ∀ text tags, field.kind = .template text tags →
      renderField displayKey n text tags = renderField displayKey m text tags) :
    Agree Node.SameInserted (renderFields displayKey n fields)
      (renderFields displayKey m fields') := by
  have hsame : renderFields displayKey n fields = renderFields displayKey m middle := by
    rw [renderFields_eq_mapM, renderFields_eq_mapM, ← htemplates]
    refine mapM_congr fun template htemplate => ?_
    obtain ⟨field, hfield, hsome⟩ := List.mem_filterMap.mp htemplate
    obtain ⟨-, hkind⟩ := Field.template?_eq_some_iff.mp hsome
    rw [renderNamed, renderNamed, hreads field hfield _ _ hkind]
  rw [hsame]
  cases harranged with
  | same => exact (Agree.of_eq rfl).imp fun _ _ _ _ heq => heq ▸ fun _ _ => rfl
  | perm hnodup hperm =>
    have hrendered := agree_mapM_of_perm (renderNamed displayKey m)
      (hperm.filterMap Field.template?)
    rw [← renderFields_eq_mapM, ← renderFields_eq_mapM] at hrendered
    refine hrendered.imp fun rendered rendered' hok _ hresults => ?_
    obtain ⟨hkeys, -⟩ := renderFields_eq_ok hok
    exact Node.fieldAt?_insertFields_of_perm
      (hkeys.nodup (hnodup.sublist (List.filter_sublist.map Field.key))) hresults

namespace Registry

variable {registry other : Registry} {entries : List (String × Json)}
  {old new schema schema' : Schema}

/-- **Fields are dumped with agreement in another order.** -/
theorem mapM_dumpField_arranged (harranged : Arranged middle fields') :
    Agree (fun nodes nodes' => Node.SameInserted (nodes.filterMap id) (nodes'.filterMap id))
      (middle.mapM (registry.dumpField displayKey schema entries))
      (fields'.mapM (registry.dumpField displayKey schema entries)) := by
  cases harranged with
  | same => exact (Agree.of_eq rfl).imp fun _ _ _ _ heq => heq ▸ fun _ _ => rfl
  | perm hnodup hperm =>
    refine (agree_mapM_of_perm _ hperm).imp fun nodes nodes' hok _ hresults => ?_
    have hkeys := keys_sublist_of_mapM_dumpField hok
    exact Node.fieldAt?_insertFields_of_perm
      (hkeys.nodup (hnodup.sublist (List.filter_sublist.map Field.key))) (hresults.filterMap id)

/-! ## Any object -/

/-- The templates of the schemas that a dump passes objects to take records as mappings: they are
rendered the same from the plain record of an object and from any record that is alike under every
key. -/
def RendersMappings (registry : Registry) (displayKey : String)
    (place : Schema × List (String × Json)) : Prop :=
  ∀ met inner n m, ReflTransGen registry.Passes place (met, inner) →
    registry.plainRecord displayKey met inner = .ok n → n.Alike m →
    ∀ field ∈ met.fields, ∀ text tags, field.kind = .template text tags →
      renderField displayKey n text tags = renderField displayKey m text tags

/-- Every template takes records of plain values as mappings. -/
theorem rendersMappings_of_isFlat {place : Schema × List (String × Json)}
    (h : ∀ met inner n, ReflTransGen registry.Passes place (met, inner) →
      registry.plainRecord displayKey met inner = .ok n → n.isFlat = true) :
    registry.RendersMappings displayKey place := by
  intro met inner n m hmet hrecord halike field _ text tags _
  exact renderField_of_sameReads (halike.sameReads_of_isFlat (h met inner n hmet hrecord)) text tags

/-- Fields that are dumped alike, and then in another order, make records that are alike. -/
theorem sameFields_of_dumped (harranged : Arranged middle schema'.fields)
    (hdumped : Agree (List.Forall₂ (Option.Rel (SameName Node.Alike)))
      (schema.fields.mapM (registry.dumpField displayKey schema entries))
      (middle.mapM (other.dumpField displayKey schema' entries))) :
    Agree (fun nodes nodes' => Node.SameFields (Node.insertFields (nodes.filterMap id) [])
        (Node.insertFields (nodes'.filterMap id) []))
      (schema.fields.mapM (registry.dumpField displayKey schema entries))
      (schema'.fields.mapM (other.dumpField displayKey schema' entries)) := by
  refine hdumped.trans (mapM_dumpField_arranged harranged) fun nodes mid nodes' hall hsame => ?_
  have hnamed : List.Forall₂ Node.AlikeField (nodes.filterMap id) (mid.filterMap id) := by
    refine List.rel_filterMap (fun _ _ hresult => hresult) (hall.imp ?_)
    rintro _ _ (⟨hname, hnode⟩ | _)
    · exact .some ⟨congrArg Text.fold hname, hnode⟩
    · exact .none
  intro key
  rw [← hsame [] key]
  exact Node.sameFields_nil.insertFields hnamed key

/-- **The order of the fields does not matter** where templates take records as mappings: both dumps
fail, or they are alike.  By induction on the size of the data. -/
theorem dump_agree_of_perm (hregistry : Registry.Exchanged old new registry other)
    (hnodup : (old.fields.map Field.key).Nodup) (hperm : old.fields.Perm new.fields)
    (hdisplay : new.display = old.display) {v : Json}
    (hschema : Schema.Exchanged old new schema schema')
    (hreads : ∀ entries, v = .object entries →
      registry.RendersMappings displayKey (schema, entries)) :
    Agree Node.Alike (registry.dump displayKey schema v) (other.dump displayKey schema' v) := by
  induction hn : sizeOf v using Nat.strongRecOn generalizing v schema schema' with
  | _ n ih =>
    subst hn
    cases v with
    | object entries =>
      obtain ⟨middle, hfields, harranged, hsame⟩ := exists_arranged hnodup hperm hdisplay hschema
      have hreads := hreads entries rfl
      have hdumped : Agree (List.Forall₂ (Option.Rel (SameName Node.Alike)))
          (schema.fields.mapM (registry.dumpField displayKey schema entries))
          (middle.mapM (other.dumpField displayKey schema' entries)) := by
        refine Agree.mapM hfields fun field hfield field' hexchanged => ?_
        refine dumpField_agree nodeCongruence_alike hregistry hschema hexchanged
          fun target target' htarget htargets w hw => ?_
        exact ih (sizeOf w) (Nat.lt_of_le_of_lt (FieldKind.sizeOf_le_of_mem_instances hw)
          (Json.sizeOf_entryOf_lt field.name entries)) htargets
          (fun below hbelow met inner n m hmet => hreads met inner n m
            (.head ⟨field, hfield, htarget, hbelow ▸ hw⟩ hmet)) rfl
      rw [dump_object, dump_object]
      refine (sameFields_of_dumped harranged hdumped).bind fun nodes nodes' hok _ hplain => ?_
      have hrecord : registry.plainRecord displayKey schema entries =
          .ok (.record displayKey (Node.insertFields (nodes.filterMap id) [])) :=
        bind_eq_ok_iff.mpr ⟨nodes, hok, rfl⟩
      rw [finishRecord, finishRecord]
      refine (renderFields_agree (filterMap_template?_of_exchanged hfields) harranged
        (hreads schema entries _ _ .refl hrecord (.record hplain))).bind
        fun rendered rendered' _ _ hrendered => .ok (.record ?_)
      rw [hsame]
      refine Node.SameFields.aliasDisplay (fun key => ?_) displayKey schema.display
      rw [← hrendered _ key]
      exact hplain.insertFields (List.forall₂_same.mpr fun e _ => ⟨rfl, .refl e.2⟩) key
    | _ =>
      rw [dump_of_ne_object rfl, dump_of_ne_object rfl]
      exact .ok .missing

/-! ## Both changes -/

/-- **Template fields are isolated from each other.**  Where a schema is exchanged for one with
another text in a template field, records change under the name of this field and under the display
key only, as long as they hold no other record of the schema; and where it is exchanged for one with
the same fields in another order, dumps fail as before or lead to the same mappings. -/
theorem template_fields_isolated (hregistry : Registry.Exchanged old new registry other) :
    (∀ before after name text text' tags tags',
      old.fields = before ++ ⟨name, .template text tags⟩ :: after →
      new.fields = before ++ ⟨name, .template text' tags'⟩ :: after →
      (∀ inner, ¬TransGen registry.Passes (old, entries) (old, inner)) →
      ∀ n m, registry.dump displayKey old (.object entries) = .ok n →
        other.dump displayKey new (.object entries) = .ok m →
        ∃ fields fields', n = .record displayKey fields ∧ m = .record displayKey fields' ∧
          ∀ key, key ≠ Text.fold name → key ≠ Text.fold displayKey →
            Node.fieldAt? key fields = Node.fieldAt? key fields') ∧
    (old.Built → old.fields.Perm new.fields → new.display = old.display →
      registry.RendersMappings displayKey (old, entries) →
      (∃ e e', registry.dump displayKey old (.object entries) = .error e ∧
        other.dump displayKey new (.object entries) = .error e') ∨
      ∃ fields fields',
        registry.dump displayKey old (.object entries) = .ok (.record displayKey fields) ∧
        other.dump displayKey new (.object entries) = .ok (.record displayKey fields') ∧
        ∀ key, Option.Rel Node.Alike (Node.fieldAt? key fields) (Node.fieldAt? key fields')) := by
  constructor
  · intro before after name text text' tags tags' hold hnew halone n m hn hm
    exact fieldAt?_of_edited hregistry hold hnew halone hn hm
  · intro hbuilt hperm hdisplay hreads
    have hagree : Agree Node.Alike (registry.dump displayKey old (.object entries))
        (other.dump displayKey new (.object entries)) :=
      dump_agree_of_perm hregistry hbuilt.nodup_keys hperm hdisplay .here
        fun _ hentries => Json.object.inj hentries ▸ hreads
    rcases hagree.error_or_ok with herrors | ⟨n, m, hn, hm, halike⟩
    · exact Or.inl herrors
    · obtain ⟨nodes, rendered, -, -, rfl⟩ := dump_object_eq_ok hn
      cases halike with
      | record hfields => exact Or.inr ⟨_, _, hn, hm, hfields⟩

end Registry

end AnyLibrary

/-! ## A dog with a label -/

/-- A dog with a name, a friend and a label. -/
def labelledDog (label : String) : Schema :=
  ⟨0, "Dog", [⟨"name", .scalar⟩, ⟨"friend", .one .self⟩, ⟨"label", .template label false⟩], none⟩

/-- The same dog, its fields declared the other way round. -/
def reorderedDog : Schema :=
  ⟨0, "Dog", [⟨"label", .template "{{name}}!" false⟩, ⟨"friend", .one .self⟩, ⟨"name", .scalar⟩],
    none⟩

/-- The data of a dog without a friend. -/
def loneDog : List (String × Json) := [("name", .string "Rex")]

namespace Registry

/-- The name of a lone dog is taken, and it has no friend. -/
theorem mapM_dumpField_loneDog (registry : Registry) (label : String) :
    (labelledDog label).fields.mapM (registry.dumpField "display" (labelledDog label) loneDog) =
      .ok [some ("name", .ofText "Rex"), some ("friend", .missing), none] := by
  have hfriend : registry.dumpField "display" (labelledDog label) loneDog
      ⟨"friend", .one .self⟩ = .ok (some ("friend", .missing)) := by
    have htarget : registry.target (labelledDog label) ⟨"friend", .one .self⟩ =
        .ok (labelledDog label) := rfl
    rw [dumpField_nested rfl htarget]
    exact map_eq_ok_iff.mpr ⟨.missing, dump_of_ne_object rfl, rfl⟩
  exact mapM_eq_ok_iff.mpr
    (.cons (dumpField_scalar rfl) (.cons hfriend (.cons (dumpField_template rfl) .nil)))

/-- A dump of a lone dog passes no other object on. -/
theorem not_passes_loneDog (registry : Registry) (label : String)
    (below : Schema × List (String × Json)) :
    ¬registry.Passes (labelledDog label, loneDog) below := by
  rintro ⟨field, hfield, -, hbelow⟩
  have hplain : ∀ name ∈ ["name", "friend", "label"],
      ((Json.object loneDog).entryOf name).object?.isNone = true := by decide +kernel
  have hname : field.name ∈ ["name", "friend", "label"] :=
    List.mem_map_of_mem (f := Field.name) hfield
  have hsize : field.kind.isMany = false := by
    rcases List.mem_cons.mp hfield with rfl | hfield
    · rfl
    · rcases List.mem_cons.mp hfield with rfl | hfield
      · rfl
      · rw [List.mem_singleton.mp hfield]
        rfl
  have hsingle : ∀ v, field.kind.instances v = [v] :=
    fun v => if_neg fun hmany => Bool.false_ne_true (hsize.symm.trans hmany)
  rw [hsingle, List.mem_singleton] at hbelow
  have hnone := hplain field.name hname
  rw [← hbelow] at hnone
  exact Bool.false_ne_true hnone

/-- The label of a lone dog is rendered. -/
theorem exists_dump_loneDog (registry : Registry) {label : String}
    (h : label = "{{name}}!" ∨ label = "{{name}}?") :
    ∃ n, registry.dump "display" (labelledDog label) (.object loneDog) = .ok n := by
  have hfinish : (finishRecord "display" (labelledDog label)
      [("name", .ofText "Rex"), ("friend", .missing)]).isOk = true := by
    rcases h with rfl | rfl <;> decide +kernel
  rw [dump_object, mapM_dumpField_loneDog]
  change ∃ n, finishRecord "display" (labelledDog label)
    [("name", .ofText "Rex"), ("friend", .missing)] = .ok n
  cases hrecord : finishRecord "display" (labelledDog label)
      [("name", .ofText "Rex"), ("friend", .missing)] with
  | error e =>
    rw [hrecord] at hfinish
    exact absurd hfinish Bool.false_ne_true
  | ok n => exact ⟨n, rfl⟩

/-- Another label of a lone dog leaves its name alone; and with its fields declared the other way
round the dog is dumped to the same entries. -/
theorem template_fields_isolated_of_dog :
    (∃ fields fields',
      dump ⟨[labelledDog "{{name}}!"]⟩ "display" (labelledDog "{{name}}!") (.object loneDog) =
        .ok (.record "display" fields) ∧
      dump ⟨[labelledDog "{{name}}?"]⟩ "display" (labelledDog "{{name}}?") (.object loneDog) =
        .ok (.record "display" fields') ∧
      Node.fieldAt? "name" fields = Node.fieldAt? "name" fields') ∧
    ∃ fields fields',
      dump ⟨[labelledDog "{{name}}!"]⟩ "display" (labelledDog "{{name}}!") (.object loneDog) =
        .ok (.record "display" fields) ∧
      dump ⟨[reorderedDog]⟩ "display" reorderedDog (.object loneDog) =
        .ok (.record "display" fields') ∧
      ∀ key, Option.Rel Node.Alike (Node.fieldAt? key fields) (Node.fieldAt? key fields') := by
  have hexchanged : ∀ new : Schema, new.name = "Dog" → Registry.Exchanged (labelledDog "{{name}}!")
      new ⟨[labelledDog "{{name}}!"]⟩ ⟨[new]⟩ := fun new hname =>
    exchanged_of_forall₂ (.cons ⟨.here, hname.symm⟩ .nil)
  obtain ⟨n, hn⟩ := exists_dump_loneDog ⟨[labelledDog "{{name}}!"]⟩ (Or.inl rfl)
  obtain ⟨m, hm⟩ := exists_dump_loneDog ⟨[labelledDog "{{name}}?"]⟩ (Or.inr rfl)
  constructor
  · have halone : ∀ inner, ¬TransGen (Passes ⟨[labelledDog "{{name}}!"]⟩)
        (labelledDog "{{name}}!", loneDog) (labelledDog "{{name}}!", inner) := by
      intro inner htrans
      obtain ⟨below, hpasses, -⟩ := TransGen.head'_iff.mp htrans
      exact not_passes_loneDog _ _ below hpasses
    obtain ⟨fields, fields', rfl, rfl, hkeys⟩ := (template_fields_isolated
      (hexchanged (labelledDog "{{name}}?") rfl)).1 [⟨"name", .scalar⟩, ⟨"friend", .one .self⟩] []
      "label" "{{name}}!" "{{name}}?" false false rfl rfl halone n m hn hm
    exact ⟨fields, fields', hn, hm, hkeys "name" (by decide) (by decide)⟩
  · have hbuilt : (labelledDog "{{name}}!").Built :=
      ⟨0, ⟨"Dog", (labelledDog "{{name}}!").fields, none⟩, by decide +kernel⟩
    have hreads : RendersMappings ⟨[labelledDog "{{name}}!"]⟩ "display"
        (labelledDog "{{name}}!", loneDog) := by
      refine rendersMappings_of_isFlat fun met inner n hmet hrecord => ?_
      rcases ReflTransGen.cases_head hmet with heq | ⟨below, hpasses, -⟩
      · obtain ⟨rfl, rfl⟩ := Prod.mk.inj heq
        rw [plainRecord, mapM_dumpField_loneDog] at hrecord
        rw [← Except.ok.inj hrecord]
        decide +kernel
      · exact absurd hpasses (not_passes_loneDog _ _ below)
    rcases (template_fields_isolated (hexchanged reorderedDog rfl)).2 hbuilt
        (List.reverse_perm _).symm rfl hreads with ⟨e, -, herror, -⟩ | hdumped
    · rw [hn] at herror
      cases herror
    · exact hdumped

end Registry

end TagTemplates
