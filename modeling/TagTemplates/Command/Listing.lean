import TagTemplates.Json.Writer
import TagTemplates.Registry.Basic
import TagTemplates.Text.Grid

/-!
# Listing schemas

The registered schemas with their fields, as a table with a row for each field, or as data.  Schemas
stand in the order of their folded names, those of one name as they were registered.

* `Registry.listed` is that order.
* `Registry.listing` are the rows.
-/

namespace TagTemplates

/-- A field as it is listed. -/
structure ListingRow where
  schema : String
  field : String
  /-- The label of the kind of the field. -/
  kind : String
  /-- Whether the field is marked as the one that displays its record. -/
  isDisplay : Bool
  deriving DecidableEq, Repr

namespace ListingRow

/-- What marks the field that displays its record. -/
def displayMark : String := "*"

/-- The rows of a schema.  A field is marked when it is written exactly like the name of the display
field, which is folded. -/
def ofSchema (schema : Schema) : List ListingRow :=
  schema.fields.map fun field =>
    ⟨schema.name, field.name, field.kind.label, schema.display == some field.name⟩

/-- The cells of a row. -/
def cells (row : ListingRow) : List String :=
  [row.schema, row.field, row.kind, if row.isDisplay then displayMark else ""]

end ListingRow

/-- A schema as it is listed as data. -/
def Schema.summary (schema : Schema) : Json :=
  .object [("display", schema.display.elim .null .string),
    ("fields", .array (schema.fields.map fun field =>
      .object [("kind", .string field.kind.label), ("name", .string field.name)])),
    ("name", .string schema.name)]

namespace Registry

/-- The registered schemas in the order of their names. -/
def listed (registry : Registry) : List Schema :=
  registry.schemas.mergeSort fun a b => decide (a.key ≤ b.key)

/-- A row for each field of each schema. -/
def listing (registry : Registry) : List ListingRow := registry.listed.flatMap ListingRow.ofSchema

/-- The schemas as a table. -/
def listingText (registry : Registry) : String :=
  if registry.isEmpty then "No schemas registered."
  else Grid.draw ⟨["Schema", "Field", "Kind", "Display"], registry.listing.map ListingRow.cells⟩

/-- The schemas as data. -/
def listingJson (registry : Registry) : Json :=
  .object [("schemas", .array (registry.listed.map Schema.summary))]

end Registry

end TagTemplates
