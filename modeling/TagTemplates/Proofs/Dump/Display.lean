import TagTemplates.Proofs.Dump.Faithful
import TagTemplates.Proofs.Registry.Completion

/-!
# Displays and valid texts

Completion goes by the schema: a text that ends on a record is valid when the schema of the record
has a display.  A render goes by the record: it shows the entry under the display key.  Both come to
the same for every schema that has a display.  A schema without one may still declare a field under
the display key, and then its records show that field, while completion has nothing to offer.

* `Node.exposesDisplay`: a record that has something to show.
* `Schema.ShowsByName`: a schema whose records show a field that was not made the display.
* `exposesDisplay_of_dump`, `exists_shown_of_display`: which records show something, and what.
* `Registry.EndsOn`, `status_of_endsOn`: texts that end on a record.
* `status_agrees_with_display`: when both agree.
-/

namespace TagTemplates

namespace Node

/-- Whether a node is a record with an entry under its display key. -/
def exposesDisplay : Node → Bool
  | record displayKey fields => (fieldAt? (Text.fold displayKey) fields).isSome
  | _ => false

theorem isSome_fieldAt?_iff {key : String} {fields : List (String × Node)} :
    (fieldAt? key fields).isSome = true ↔ key ∈ fieldKeys fields := by
  induction fields with
  | nil => simp [fieldAt?, fieldKeys]
  | cons e rest ih =>
    obtain ⟨k, n⟩ := e
    rw [fieldKeys] at ih
    rw [fieldAt?, fieldKeys, List.map_cons, List.mem_cons]
    by_cases hk : k = key
    · rw [if_pos hk]
      exact ⟨fun _ => Or.inl hk.symm, fun _ => rfl⟩
    · rw [if_neg hk, ih]
      exact ⟨Or.inr, fun hor => hor.resolve_left (Ne.symm hk)⟩

/-- A record shows the entry under its display key, and nothing when there is none. -/
theorem text_record {displayKey : String} {fields : List (String × Node)} :
    (record displayKey fields).text =
      ((fieldAt? (Text.fold displayKey) fields).map text).getD "" := by
  rw [text, textOfField_eq]

end Node

/-- The records of this schema show a field that was not made the display: there is no display, but
a field is declared under the display key. -/
def Schema.ShowsByName (schema : Schema) (displayKey : String) : Prop :=
  schema.hasDisplay = false ∧ Text.fold displayKey ∈ schema.fieldNames

namespace Registry

variable {registry : Registry} {displayKey : String} {schema : Schema}
  {entries : List (String × Json)} {node : Node}

/-! ## What a record shows -/

section AnyLibrary

variable [Liquid.Library]

/-- **Which records show something**: those of a schema that has a display, or that declares a field
under the display key. -/
theorem exposesDisplay_of_dump (hbuilt : schema.Built)
    (h : registry.dump displayKey schema (.object entries) = .ok node) :
    node.exposesDisplay = true ↔ schema.hasDisplay = true ∨ schema.ShowsByName displayKey := by
  obtain ⟨nodes, rendered, hnodes, hrendered, rfl⟩ := dump_object_eq_ok h
  have hall := exists_fieldAt?_insertFields hbuilt hnodes hrendered
  have hentries : ∀ field ∈ schema.fields, ∃ own, Node.fieldAt? field.key
      (Node.insertFields rendered (Node.insertFields (nodes.filterMap id) [])) = some own := by
    intro field hfield
    obtain ⟨own, hown, -⟩ := hall field hfield
    exact ⟨own, hown⟩
  rw [Node.exposesDisplay, Node.isSome_fieldAt?_iff, mem_aliasDisplay_iff hbuilt hentries,
    mem_insertFields_of_dump hbuilt hnodes hrendered, Schema.ShowsByName]
  cases schema.hasDisplay with
  | true => simp
  | false => simp

/-- **What the records of a schema with a display show**: the entry of the display, which is the
entry under the display key as well. -/
theorem exists_shown_of_display (hbuilt : schema.Built)
    (h : registry.dump displayKey schema (.object entries) = .ok node) {key : String}
    (hdisplay : schema.display = some key) :
    ∃ fields shown, node = .record displayKey fields ∧
      Node.fieldAt? (Text.fold displayKey) fields = some shown ∧
      Node.fieldAt? key fields = some shown ∧ node.text = shown.text := by
  obtain ⟨nodes, rendered, hnodes, hrendered, rfl⟩ := dump_object_eq_ok h
  obtain ⟨field, hfield, rfl⟩ := hbuilt.exists_of_display hdisplay
  obtain ⟨shown, hshown, -⟩ := exists_fieldAt?_insertFields hbuilt hnodes hrendered field hfield
  have hkeeps : schema.Keeps displayKey field :=
    fun _ name hname => Option.some_inj.mp (hname.symm.trans hdisplay)
  have hunder : Node.fieldAt? (Text.fold displayKey) (aliasDisplay displayKey schema.display
      (Node.insertFields rendered (Node.insertFields (nodes.filterMap id) []))) = some shown := by
    rw [aliasDisplay_eq_putField hdisplay hshown, Node.fieldAt?_putField_self]
  refine ⟨_, shown, rfl, hunder, ?_, ?_⟩
  · rw [fieldAt?_aliasDisplay hkeeps, hshown]
  · rw [Node.text_record, hunder]
    rfl

/-- A record that exposes no display shows nothing. -/
theorem text_of_dump_of_not_exposesDisplay
    (h : registry.dump displayKey schema (.object entries) = .ok node)
    (hnot : node.exposesDisplay = false) : node.text = "" := by
  obtain ⟨nodes, rendered, -, -, rfl⟩ := dump_object_eq_ok h
  rw [Node.exposesDisplay, Option.isSome_eq_false_iff, Option.isNone_iff_eq_none] at hnot
  rw [Node.text_record, hnot]
  rfl

end AnyLibrary

/-! ## Texts that end on a record -/

/-- The steps of this text begin with an allowed root and end on a record of the schema; they do not
end on a list that is taken without an index. -/
def EndsOn (registry : Registry) (filter : RootFilter) (fragment : List Char) (schema : Schema) :
    Prop :=
  ∃ first rest r, readPartial fragment = first :: rest ∧ filter.allows first.name = true ∧
    registry.Accepts (first :: rest) r ∧ registry.endsOnList r.root r.steps = false ∧
    r.endpoint = .record schema

/-- Steps resolve in one way only. -/
theorem Accepts.unique {steps : List Step} {r r' : Resolution} (h : registry.Accepts steps r)
    (h' : registry.Accepts steps r') : r = r' := by
  obtain ⟨path, hpath, hr⟩ := h
  obtain ⟨path', hpath', hr'⟩ := h'
  obtain rfl := Option.some_inj.mp (hpath.symm.trans hpath')
  exact Except.ok.inj (hr.symm.trans hr')

/-- **A text that ends on a record is valid when the schema of the record has a display.** -/
theorem status_of_endsOn {filter : RootFilter} {fragment : List Char}
    (h : registry.EndsOn filter fragment schema) :
    (registry.complete filter fragment).status = .valid ↔ schema.hasDisplay = true := by
  obtain ⟨first, rest, r, hsteps, hallows, hr, hends, hlast⟩ := h
  have hdisplays : r.endpoint.displays = schema.hasDisplay := by rw [hlast, Endpoint.displays]
  rw [status_complete_iff, ← hdisplays]
  constructor
  · rintro ⟨first', rest', r', hsteps', -, hr', -, hvalid⟩
    rw [← hsteps', hsteps] at hr'
    rwa [hr.unique hr']
  · exact fun hvalid => ⟨first, rest, r, hsteps, hallows, hr, hends, hvalid⟩

/-- **Validity and displays.**  A record of a schema that has a display shows the entry of the
display, under its own name and under the display key.  A text that ends on the record is valid just
then; and this agrees with what the record exposes unless its schema has no display and declares a
field under the display key. -/
theorem status_agrees_with_display [Liquid.Library] (hbuilt : schema.Built)
    (h : registry.dump displayKey schema (.object entries) = .ok node) :
    (node.exposesDisplay = true ↔ schema.hasDisplay = true ∨ schema.ShowsByName displayKey) ∧
    (node.exposesDisplay = false → node.text = "") ∧
    (∀ key, schema.display = some key → ∃ fields shown, node = .record displayKey fields ∧
      Node.fieldAt? (Text.fold displayKey) fields = some shown ∧
      Node.fieldAt? key fields = some shown ∧ node.text = shown.text) ∧
    ∀ filter fragment, registry.EndsOn filter fragment schema →
      ((registry.complete filter fragment).status = .valid ↔ schema.hasDisplay = true) ∧
      (((registry.complete filter fragment).status = .valid ↔ node.exposesDisplay = true) ↔
        ¬schema.ShowsByName displayKey) := by
  have hexposes := exposesDisplay_of_dump hbuilt h
  refine ⟨hexposes, text_of_dump_of_not_exposesDisplay h,
    fun key hdisplay => exists_shown_of_display hbuilt h hdisplay, fun filter fragment hends => ?_⟩
  refine ⟨status_of_endsOn hends, ?_⟩
  rw [status_of_endsOn hends, hexposes]
  constructor
  · intro hagree hshows
    have hdisplay := hagree.mpr (Or.inr hshows)
    exact absurd (hdisplay.symm.trans hshows.1) (by simp)
  · exact fun hnot => ⟨Or.inl, fun hor => hor.resolve_right hnot⟩

/-- A page is shown by its title, and its text is valid. -/
theorem status_agrees_with_display_page :
    (pages.complete .all "Page".toList).status = .valid ∧
      (Node.record "label" [("title", .ofText "Home"), ("label", .ofText "Home")]).text =
        "Home" := by
  have hends : pages.EndsOn .all "Page".toList pageSchema :=
    ⟨⟨"page", none⟩, [], ⟨pageSchema, [], .record pageSchema, false⟩, by decide +kernel,
      by decide +kernel, ⟨_, rfl, by decide +kernel⟩, rfl, rfl⟩
  obtain ⟨-, -, hshown, hstatus⟩ := status_agrees_with_display built_pageSchema dump_pageSchema
  obtain ⟨fields, shown, hrecord, -, htitle, htext⟩ := hshown "title" rfl
  obtain ⟨-, rfl⟩ := Node.record.inj hrecord
  obtain rfl : Node.ofText "Home" = shown := Option.some_inj.mp htitle
  exact ⟨(hstatus .all _ hends).1.mpr rfl, htext⟩

/-! ## A page with nothing but a label -/

/-- A label is a page without a display. -/
def labelSchema : Schema := ⟨0, "Page", [⟨"label", .scalar⟩], none⟩

/-- Where records show their labels, such a page shows its label, and a tag of the page prints it;
but the text of the tag is not valid. -/
theorem status_ne_display_of_label :
    labelSchema.Built ∧ labelSchema.hasDisplay = false ∧ ∃ node,
      (⟨[labelSchema]⟩ : Registry).dump "label" labelSchema (.object [("label", .string "new")]) =
        .ok node ∧
      node.exposesDisplay = true ∧ node.text = "new" ∧
      (⟨[labelSchema]⟩ : Registry).EndsOn .all "page".toList labelSchema ∧
      ((⟨[labelSchema]⟩ : Registry).complete .all "page".toList).status = .invalid := by
  have hends : (⟨[labelSchema]⟩ : Registry).EndsOn .all "page".toList labelSchema :=
    ⟨⟨"page", none⟩, [], ⟨labelSchema, [], .record labelSchema, false⟩, by decide +kernel,
      by decide +kernel, ⟨_, rfl, by decide +kernel⟩, rfl, rfl⟩
  refine ⟨⟨0, ⟨"Page", labelSchema.fields, none⟩, by decide +kernel⟩, rfl,
    .record "label" [("label", .ofText "new")], ?_, rfl, rfl, hends, ?_⟩
  · rw [dump]
    show ([(⟨"label", .scalar⟩ : Field)].mapM
      ((⟨[labelSchema]⟩ : Registry).dumpField "label" labelSchema _) >>= _) = _
    rw [List.mapM_cons, dumpField_scalar rfl, List.mapM_nil]
    rfl
  · cases hstatus : ((⟨[labelSchema]⟩ : Registry).complete .all "page".toList).status with
    | invalid => rfl
    | valid => exact absurd ((status_of_endsOn hends).mp hstatus) (by decide)

end Registry

end TagTemplates
