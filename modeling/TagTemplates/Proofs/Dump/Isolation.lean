import TagTemplates.Proofs.Dump.Exchange

/-!
# One template field does not reach the others

Templates are rendered from the plain record of an object, which holds no rendered text.  So another
text in one template field changes the entry of this field and its copy under the display key, and
nothing else, as long as the record of the object holds no other record of its schema.

* `mapM_append_cons_eq_ok_iff`: the items of a list, one of them singled out.
* `Node.fieldAt?_insertFields_append_cons`: a node under one name does not reach other names.
* `Registry.mapM_dumpField_of_edited`: the plain nodes of the two schemas are the same.
* `Registry.fieldAt?_of_edited`: the entries of the two records, under all other keys.
-/

namespace TagTemplates

open Relation

/-- The items of a list are treated successfully when those before one of them are, this one, and
those behind it. -/
theorem mapM_append_cons_eq_ok_iff {ε α β : Type} {f : α → Except ε β} {front back : List α} {a : α}
    {bs : List β} : (front ++ a :: back).mapM f = .ok bs ↔ ∃ before b after,
      front.mapM f = .ok before ∧ f a = .ok b ∧ back.mapM f = .ok after ∧
        bs = before ++ b :: after := by
  rw [List.mapM_append, bind_eq_ok_iff]
  constructor
  · rintro ⟨before, hbefore, hrest⟩
    obtain ⟨more, hmore, hbs⟩ := bind_eq_ok_iff.mp hrest
    rw [List.mapM_cons] at hmore
    obtain ⟨b, hb, hmore⟩ := bind_eq_ok_iff.mp hmore
    obtain ⟨after, hafter, hcons⟩ := bind_eq_ok_iff.mp hmore
    obtain rfl : b :: after = more := Except.ok.inj hcons
    exact ⟨before, b, after, hbefore, hb, hafter, (Except.ok.inj hbs).symm⟩
  · rintro ⟨before, b, after, hbefore, hb, hafter, rfl⟩
    refine ⟨before, hbefore, bind_eq_ok_iff.mpr ⟨b :: after, ?_, rfl⟩⟩
    rw [List.mapM_cons, hb, hafter]
    rfl

/-! ## Nodes under other names -/

namespace Node

variable {key name : String} {node node' : Node} {fields others : List (String × Node)}

/-- What stands under a key is the same after the same insertions. -/
theorem fieldAt?_insertFields_congr (h : fieldAt? key fields = fieldAt? key others)
    (nodes : List (String × Node)) :
    fieldAt? key (insertFields nodes fields) = fieldAt? key (insertFields nodes others) := by
  induction nodes generalizing fields others with
  | nil => exact h
  | cons e nodes ih =>
    rw [insertFields_cons, insertFields_cons]
    refine ih ?_
    by_cases hkey : key = Text.fold e.1
    · subst hkey
      rw [insertField, insertField, fieldAt?_putField_self, fieldAt?_putField_self]
    · rw [insertField, insertField, fieldAt?_putField_of_ne hkey, fieldAt?_putField_of_ne hkey, h]

/-- A node under one name does not reach other names. -/
theorem fieldAt?_insertFields_append_cons (h : key ≠ Text.fold name)
    (front back fields : List (String × Node)) :
    fieldAt? key (insertFields (front ++ (name, node) :: back) fields) =
      fieldAt? key (insertFields (front ++ (name, node') :: back) fields) := by
  have hsplit : ∀ node, insertFields (front ++ (name, node) :: back) fields =
      insertFields back (insertField name node (insertFields front fields)) := by
    intro node
    rw [insertFields, List.foldl_append]
    rfl
  rw [hsplit, hsplit]
  refine fieldAt?_insertFields_congr ?_ back
  rw [insertField, insertField, fieldAt?_putField_of_ne h, fieldAt?_putField_of_ne h]

end Node

/-- The display is copied to the display key only. -/
theorem fieldAt?_aliasDisplay_of_ne {key displayKey : String} (h : key ≠ Text.fold displayKey)
    (display : Option String) (nodes : List (String × Node)) :
    Node.fieldAt? key (aliasDisplay displayKey display nodes) = Node.fieldAt? key nodes := by
  cases display with
  | none => rfl
  | some name =>
    rw [aliasDisplay]
    by_cases hsame : Text.sameName name displayKey = true
    · rw [if_pos hsame]
    · rw [if_neg hsame]
      cases Node.fieldAt? (Text.fold name) nodes with
      | none => rfl
      | some node => exact Node.fieldAt?_putField_of_ne h node nodes

namespace Registry

variable [Liquid.Library] {registry other : Registry}
  {displayKey name text text' : String} {tags tags' : Bool}
  {entries : List (String × Json)} {old new : Schema} {before after : List Field}

/-- What a nested field of the old schema holds does not reach this schema again. -/
theorem dumpField_agree_of_alone (hregistry : Registry.Exchanged old new registry other)
    (halone : ∀ inner, ¬TransGen registry.Passes (old, entries) (old, inner)) {field : Field}
    (hfield : field ∈ old.fields) :
    Agree (Option.Rel (SameName (· = ·))) (registry.dumpField displayKey old entries field)
      (other.dumpField displayKey new entries field) := by
  refine dumpField_agree nodeCongruence_eq hregistry .here (.same field) ?_
  intro target target' htarget htargets w hw
  refine dump_agree_of_unreached hregistry htargets fun below hbelow inner hinner => ?_
  exact halone inner (.head' ⟨field, hfield, htarget, hbelow ▸ hw⟩ hinner)

/-- **The plain nodes are the same** whatever the text of a template field is. -/
theorem mapM_dumpField_of_edited (hregistry : Registry.Exchanged old new registry other)
    (hold : old.fields = before ++ ⟨name, .template text tags⟩ :: after)
    (hnew : new.fields = before ++ ⟨name, .template text' tags'⟩ :: after)
    (halone : ∀ inner, ¬TransGen registry.Passes (old, entries) (old, inner)) :
    Agree (· = ·) (old.fields.mapM (registry.dumpField displayKey old entries))
      (new.fields.mapM (other.dumpField displayKey new entries)) := by
  have hfields : List.Forall₂ (fun field field' : Field => field' = field ∨
      field.kind.isTemplate = true ∧ field'.kind.isTemplate = true) old.fields new.fields := by
    rw [hold, hnew]
    have hsame : ∀ fields : List Field, List.Forall₂ (fun field field' : Field => field' = field ∨
        field.kind.isTemplate = true ∧ field'.kind.isTemplate = true) fields fields :=
      fun fields => List.forall₂_same.mpr fun field _ => Or.inl rfl
    exact List.rel_append (hsame before) (.cons (Or.inr ⟨rfl, rfl⟩) (hsame after))
  refine (Agree.mapM hfields fun field hfield field' h => ?_).imp
    fun nodes nodes' _ _ hall => eq_of_forall₂_sameName hall
  rcases h with rfl | ⟨htemplate, htemplate'⟩
  · exact dumpField_agree_of_alone hregistry halone hfield
  · obtain ⟨text, tags, hkind⟩ := FieldKind.eq_template htemplate
    obtain ⟨text', tags', hkind'⟩ := FieldKind.eq_template htemplate'
    rw [dumpField_template hkind, dumpField_template hkind']
    exact .ok .none

/-- **Another text in one template field leaves the other entries alone**, except the one under the
display key. -/
theorem fieldAt?_of_edited (hregistry : Registry.Exchanged old new registry other)
    (hold : old.fields = before ++ ⟨name, .template text tags⟩ :: after)
    (hnew : new.fields = before ++ ⟨name, .template text' tags'⟩ :: after)
    (halone : ∀ inner, ¬TransGen registry.Passes (old, entries) (old, inner)) {n m : Node}
    (hn : registry.dump displayKey old (.object entries) = .ok n)
    (hm : other.dump displayKey new (.object entries) = .ok m) :
    ∃ fields fields', n = .record displayKey fields ∧ m = .record displayKey fields' ∧
      ∀ key, key ≠ Text.fold name → key ≠ Text.fold displayKey →
        Node.fieldAt? key fields = Node.fieldAt? key fields' := by
  obtain ⟨nodes, rendered, hnodes, hrendered, rfl⟩ := dump_object_eq_ok hn
  obtain ⟨nodes', rendered', hnodes', hrendered', rfl⟩ := dump_object_eq_ok hm
  have hplain : Agree (· = ·) (old.fields.mapM (registry.dumpField displayKey old entries))
      (new.fields.mapM (other.dumpField displayKey new entries)) :=
    mapM_dumpField_of_edited hregistry hold hnew halone
  rw [hnodes, hnodes'] at hplain
  cases hplain with
  | ok hsame =>
    subst hsame
    rw [renderFields_eq_mapM, hold, List.filterMap_append, List.filterMap_cons,
      Field.template?] at hrendered
    rw [renderFields_eq_mapM, hnew, List.filterMap_append, List.filterMap_cons,
      Field.template?] at hrendered'
    -- The other templates are rendered from the same record, and to the same nodes.
    obtain ⟨front, e, back, hfront, he, hback, rfl⟩ := mapM_append_cons_eq_ok_iff.mp hrendered
    obtain ⟨front', e', back', hfront', he', hback', rfl⟩ :=
      mapM_append_cons_eq_ok_iff.mp hrendered'
    obtain rfl := Except.ok.inj (hfront.symm.trans hfront')
    obtain rfl := Except.ok.inj (hback.symm.trans hback')
    obtain ⟨node, -, rfl⟩ := map_eq_ok_iff.mp he
    obtain ⟨node', -, rfl⟩ := map_eq_ok_iff.mp he'
    refine ⟨_, _, rfl, rfl, fun key hname hkey => ?_⟩
    rw [fieldAt?_aliasDisplay_of_ne hkey, fieldAt?_aliasDisplay_of_ne hkey]
    exact Node.fieldAt?_insertFields_append_cons hname front back _

end Registry

end TagTemplates
