import TagTemplates.Command.Listing
import TagTemplates.Proofs.Schema.Calls

/-!
# The table of schemas

The table lists the registered schemas by their folded names, and those of one name in the order of
their registration.  A schema has a row for each of its fields, and the row of its display field is
meant to carry a mark.  The display of a schema is kept folded, while a field keeps the spelling of
its declaration, and the mark goes to a field that is written like the display: a display field that
is declared with a capital letter goes without.

* `Registry.ListingOrder`: the order of the schemas, `listingOrder_listed`.
* `Schema.row`: the row of a field, marked or not.
* `Schema.ListedAs`: the rows of a schema, `Built.listedAs`.
* `Registry.listing_marks_display`: the whole table.
-/

namespace TagTemplates

/-! ## The order of the schemas -/

namespace Registry

variable {registry : Registry}

/-- Schemas in the order of a listing: all that are registered, by their folded names, and for each
name as they were registered. -/
structure ListingOrder (registry : Registry) (schemas : List Schema) : Prop where
  perm : schemas.Perm registry.schemas
  sorted : schemas.Pairwise fun a b => a.key ≤ b.key
  stable : ∀ key, schemas.filter (·.key == key) = registry.schemas.filter (·.key == key)

/-- Schemas of one name are listed as they were registered. -/
theorem filter_listed (key : String) :
    registry.listed.filter (·.key == key) = registry.schemas.filter (·.key == key) := by
  have hsorted : (registry.schemas.filter (·.key == key)).Pairwise fun a b =>
      decide (a.key ≤ b.key) = true := by
    refine List.pairwise_of_forall_mem_list fun a ha b hb => decide_eq_true ?_
    have hkey : a.key = b.key :=
      (beq_iff_eq.mp (List.mem_filter.mp ha).2).trans (beq_iff_eq.mp (List.mem_filter.mp hb).2).symm
    exact hkey ▸ String.le_refl a.key
  -- what is sorted already keeps its order, so the schemas of the name are all found in it
  have hlisted : (registry.schemas.filter (·.key == key)).Sublist registry.listed :=
    List.sublist_mergeSort (fun a b c => Text.decide_le_trans a.key b.key c.key)
      (fun a b => Text.decide_le_total a.key b.key) hsorted List.filter_sublist
  have hsub := hlisted.filter (·.key == key)
  simp only [List.filter_filter, Bool.and_self] at hsub
  have hperm := (List.mergeSort_perm registry.schemas fun a b => decide (a.key ≤ b.key)).filter
    (·.key == key)
  exact (hsub.eq_of_length hperm.length_eq.symm).symm

/-- **Schemas are listed by their names**, and for each name as they were registered. -/
theorem listingOrder_listed (registry : Registry) : registry.ListingOrder registry.listed where
  perm := List.mergeSort_perm registry.schemas _
  sorted := (List.pairwise_mergeSort (fun a b c => Text.decide_le_trans a.key b.key c.key)
    (fun a b => Text.decide_le_total a.key b.key) registry.schemas).imp of_decide_eq_true
  stable := filter_listed

end Registry

/-! ## The rows of a schema -/

namespace Schema

variable {schema : Schema} {field : Field}

/-- The row of a field in the table. -/
def row (schema : Schema) (marked : Bool) (field : Field) : List String :=
  [schema.name, field.name, field.kind.label, if marked then "*" else ""]

/-- The rows of a schema: one for each field, in the order of their declaration.  Without a display
no row is marked.  With a display no row is marked but the one of the field that is found for it,
and this one if the field is written in lower case. -/
inductive ListedAs (schema : Schema) : List (List String) → Prop where
  | plain : schema.display = none → ListedAs schema (schema.fields.map (schema.row false))
  | display {front back : List Field} {field : Field} {key : String} :
      schema.display = some key → schema.field? key = some field →
      schema.fields = front ++ field :: back →
      ListedAs schema (front.map (schema.row false) ++
        schema.row (Text.fold field.name == field.name) field :: back.map (schema.row false))

/-- The rows of a schema mark the fields that are written like its display. -/
theorem map_cells_ofSchema (schema : Schema) :
    (ListingRow.ofSchema schema).map ListingRow.cells =
      schema.fields.map fun field => schema.row (schema.display == some field.name) field := by
  rw [ListingRow.ofSchema, List.map_map]
  rfl

/-- **The rows of a schema that is built.** -/
theorem Built.listedAs (hbuilt : schema.Built) :
    schema.ListedAs ((ListingRow.ofSchema schema).map ListingRow.cells) := by
  rw [map_cells_ofSchema]
  cases hdisplay : schema.display with
  | none => exact .plain hdisplay
  | some key =>
    obtain ⟨field, hmem, rfl⟩ := hbuilt.exists_of_display hdisplay
    obtain ⟨front, back, hfields⟩ := List.append_of_mem hmem
    have hfound : schema.field? field.key = some field :=
      field?_eq_some_of_mem hbuilt.nodup_keys hmem (Text.fold_fold field.name)
    have hnodup := hbuilt.nodup_keys
    rw [hfields, List.map_append, List.map_cons, List.nodup_middle, List.nodup_cons,
      List.mem_append, not_or] at hnodup
    have hunmarked : ∀ fields : List Field, field.key ∉ fields.map Field.key →
        fields.map (fun other => schema.row (some field.key == some other.name) other) =
          fields.map (schema.row false) := by
      refine fun fields hnotMem => List.map_congr_left fun other hother => ?_
      -- a field that is written like the display would have its key
      have hne : field.key ≠ other.name := fun heq => hnotMem
        (List.mem_map.mpr ⟨other, hother, by rw [Field.key, ← heq, Field.key, Text.fold_fold]⟩)
      rw [beq_eq_false_iff_ne.mpr fun heq => hne (Option.some_inj.mp heq)]
    rw [hfields, List.map_append, List.map_cons, hunmarked front hnodup.1.1,
      hunmarked back hnodup.1.2]
    exact .display hdisplay hfound hfields

end Schema

/-! ## The table -/

namespace Registry

variable {registry : Registry}

/-- **The table of schemas.**  Schemas stand in their order, each with the rows of its fields.  The
row of a display field is marked exactly when the field is declared in lower case, and no other row
is. -/
theorem listing_marks_display (hbuilt : ∀ schema ∈ registry.schemas, schema.Built) :
    registry.ListingOrder registry.listed ∧
    ∃ rows : List (List (List String)), List.Forall₂ Schema.ListedAs registry.listed rows ∧
      registry.listing.map ListingRow.cells = rows.flatten ∧
      registry.listingText = if registry.schemas = [] then "No schemas registered."
        else Grid.draw ⟨["Schema", "Field", "Kind", "Display"], rows.flatten⟩ := by
  have horder := listingOrder_listed registry
  have hcells : registry.listing.map ListingRow.cells =
      (registry.listed.map fun schema =>
        (ListingRow.ofSchema schema).map ListingRow.cells).flatten := by
    rw [listing, List.map_flatMap, List.flatMap_def]
  refine ⟨horder, _, ?_, hcells, ?_⟩
  · rw [List.forall₂_map_right_iff, List.forall₂_same]
    exact fun schema hmem => (hbuilt schema (horder.perm.mem_iff.mp hmem)).listedAs
  · rw [listingText, hcells, isEmpty]
    simp only [List.isEmpty_iff]

/-- A puppy is shown by its name. -/
def puppySchema : Schema := ⟨0, "Puppy", [⟨"Breed", .scalar⟩, ⟨"name", .scalar⟩], some "name"⟩

/-- The row of the name of a puppy is marked. -/
theorem listing_marks_display_of_puppy :
    (⟨[puppySchema]⟩ : Registry).listingText =
      Grid.draw ⟨["Schema", "Field", "Kind", "Display"],
        [["Puppy", "Breed", "scalar", ""], ["Puppy", "name", "scalar", "*"]]⟩ := by
  have hbuilt : puppySchema.Built :=
    ⟨0, ⟨"Puppy", puppySchema.fields, some "Name"⟩, by decide +kernel⟩
  obtain ⟨-, rows, -, hrows, htext⟩ :=
    @listing_marks_display ⟨[puppySchema]⟩ (List.forall_mem_singleton.mpr hbuilt)
  rw [htext, ← hrows, if_neg (by simp), listing, listed, List.mergeSort_singleton]
  rfl

/-- A company is shown by its catch phrase, which is declared with a capital letter. -/
def companySchema : Schema := ⟨0, "Company", [⟨"catchPhrase", .scalar⟩], some "catchphrase"⟩

/-- The catch phrase of a company is found for its display, and its row is not marked. -/
theorem listing_of_company :
    companySchema.Built ∧ companySchema.display = some "catchphrase" ∧
      companySchema.field? "catchphrase" = some ⟨"catchPhrase", .scalar⟩ ∧
      (⟨[companySchema]⟩ : Registry).listing = [⟨"Company", "catchPhrase", "scalar", false⟩] ∧
      (⟨[companySchema]⟩ : Registry).listingText =
        Grid.draw ⟨["Schema", "Field", "Kind", "Display"],
          [["Company", "catchPhrase", "scalar", ""]]⟩ := by
  have hlisting : (⟨[companySchema]⟩ : Registry).listing =
      [⟨"Company", "catchPhrase", "scalar", false⟩] := by
    rw [listing, listed, List.mergeSort_singleton]
    decide +kernel
  refine ⟨⟨0, ⟨"Company", companySchema.fields, some "catchPhrase"⟩, by decide +kernel⟩, rfl,
    by decide +kernel, hlisting, ?_⟩
  rw [listingText, hlisting]
  rfl

end Registry

end TagTemplates
