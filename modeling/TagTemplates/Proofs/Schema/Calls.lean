import Mathlib.Data.List.Nodup
import TagTemplates.Proofs.Schema.Built

/-!
# Building a schema call by call

A draft begins with a name, and every call declares fields, designates a display, or does both.
What counts in the end is the list of all fields in the order of the calls, and the last
designation.

* `Draft.Call`, `Draft.after`: the calls, and the draft that a list of calls leads to.
* `Draft.apply_eq`, `Draft.after_eq`: what one call and what all of them leave behind.
* `isTagName_iff`, `Draft.exists_build_eq_ok_iff`: when a draft is built.
* `Draft.exists_schema_iff`, `Draft.build_after_eq_ok`: the same for a list of calls, and the schema
  that comes out of it.
-/

namespace TagTemplates

/-- A name that a tag can write: one or more ASCII letters, digits and underscores. -/
theorem isTagName_iff {name : String} : isTagName name = true ↔
    name.toList ≠ [] ∧ ∀ c ∈ name.toList, c.isAlphanum = true ∨ c = '_' := by
  rw [isTagName, Bool.and_eq_true, List.all_eq_true, Bool.not_eq_true', List.isEmpty_eq_false_iff]
  refine and_congr_right fun _ => forall₂_congr fun c _ => ?_
  rw [Text.isNameChar, Bool.or_eq_true, beq_iff_eq]

namespace Draft

/-! ## Calls -/

/-- A call that adds to a draft. -/
inductive Call where
  | field (name : String) (kind : FieldKind)
  | scalar (name : String)
  | scalars (names : List String)
  | one (name : String) (target : SchemaRef)
  | many (name : String) (target : SchemaRef)
  | template (name text : String)
  | tagTemplate (name text : String)
  | displayField (name : String)
  | defaultTemplate (text : String)
  | defaultTagTemplate (text : String)

/-- Make a call. -/
def apply (draft : Draft) : Call → Draft
  | .field name kind => draft.field name kind
  | .scalar name => draft.scalar name
  | .scalars names => draft.scalars names
  | .one name target => draft.one name target
  | .many name target => draft.many name target
  | .template name text => draft.template name text
  | .tagTemplate name text => draft.tagTemplate name text
  | .displayField name => draft.displayField name
  | .defaultTemplate text => draft.defaultTemplate text
  | .defaultTagTemplate text => draft.defaultTagTemplate text

/-- The draft of a name after some calls. -/
def after (name : String) (calls : List Call) : Draft := calls.foldl apply { name := name }

/-- The fields that a call declares. -/
def Call.declared : Call → List Field
  | field name kind => [⟨name, kind⟩]
  | scalar name => [⟨name, .scalar⟩]
  | scalars names => names.map (⟨·, .scalar⟩)
  | one name target => [⟨name, .one target⟩]
  | many name target => [⟨name, .many target⟩]
  | template name text => [⟨name, .template text false⟩]
  | tagTemplate name text => [⟨name, .template text true⟩]
  | displayField _ => []
  | defaultTemplate text => [⟨defaultDisplayField, .template text false⟩]
  | defaultTagTemplate text => [⟨defaultDisplayField, .template text true⟩]

/-- The display that a call designates. -/
def Call.designated? : Call → Option String
  | displayField name => some name
  | defaultTemplate _ => some defaultDisplayField
  | defaultTagTemplate _ => some defaultDisplayField
  | _ => none

/-- The fields of some calls, in their order. -/
def declared (calls : List Call) : List Field := calls.flatMap Call.declared

/-- The display that is designated last. -/
def designated? (calls : List Call) : Option String := (calls.filterMap Call.designated?).getLast?

theorem scalars_eq (draft : Draft) (names : List String) : draft.scalars names =
    { draft with fields := draft.fields ++ names.map (⟨·, .scalar⟩) } := by
  induction names generalizing draft with
  | nil => rw [List.map_nil, List.append_nil]; rfl
  | cons name names ih =>
    have hcons : draft.scalars (name :: names) = (draft.scalar name).scalars names := rfl
    rw [hcons, ih, List.map_cons]
    simp [scalar, field]

/-- What one call leaves behind. -/
theorem apply_eq (draft : Draft) (call : Call) : draft.apply call =
    ⟨draft.name, draft.fields ++ call.declared, call.designated?.or draft.display⟩ := by
  cases call with
  | scalars names => exact draft.scalars_eq names
  | displayField name =>
    show (⟨draft.name, draft.fields, some name⟩ : Draft) = _
    rw [Call.declared, List.append_nil]
    rfl
  | _ => rfl

/-- What all calls leave behind. -/
theorem foldl_apply_eq (calls : List Call) (draft : Draft) : calls.foldl apply draft =
    ⟨draft.name, draft.fields ++ declared calls, (designated? calls).or draft.display⟩ := by
  induction calls generalizing draft with
  | nil =>
    rw [declared, List.flatMap_nil, List.append_nil]
    rfl
  | cons call calls ih =>
    rw [List.foldl_cons, ih, apply_eq, declared, declared, List.flatMap_cons, List.append_assoc,
      designated?, designated?, List.filterMap_cons]
    cases call.designated? with
    | none => rfl
    | some name =>
      rw [List.getLast?_cons]
      cases (calls.filterMap Call.designated?).getLast? <;> rfl

theorem after_eq (name : String) (calls : List Call) :
    after name calls = ⟨name, declared calls, designated? calls⟩ := by
  rw [after, foldl_apply_eq, List.nil_append, Option.or_none]

/-! ## Building -/

variable {token : Nat} {draft : Draft} {schema : Schema}

/-- Fields pass the check when no name is wrong and none is seen twice. -/
theorem checkFields_of_nodup {name : String} : ∀ {fields : List Field} {seen : List String},
    (∀ field ∈ fields, isTagName field.name = true) → (∀ field ∈ fields, field.key ∉ seen) →
      (fields.map Field.key).Nodup → checkFields name seen fields = .ok ()
  | [], _, _, _, _ => rfl
  | field :: rest, seen, hnames, hfresh, hnodup => by
    obtain ⟨hname, hnames⟩ := List.forall_mem_cons.mp hnames
    obtain ⟨hnew, hfresh⟩ := List.forall_mem_cons.mp hfresh
    obtain ⟨hother, hnodup⟩ := List.nodup_cons.mp hnodup
    rw [checkFields, if_neg (by simp [hname]), if_neg (by simpa using hnew)]
    refine checkFields_of_nodup hnames (fun other hmem hseen => ?_) hnodup
    rcases List.mem_cons.mp hseen with hkey | hseen
    · exact hother (hkey ▸ List.mem_map_of_mem hmem)
    · exact hfresh other hmem hseen

theorem declares_iff {key : String} :
    draft.declares key = true ↔ ∃ field ∈ draft.fields, field.key = key := by
  rw [declares, List.contains_iff_mem, List.mem_map]

/-- A display is found when the designated one is declared. -/
theorem exists_chooseDisplay_eq_ok_iff : (∃ display, draft.chooseDisplay = .ok display) ↔
    ∀ name, draft.display = some name → ∃ field ∈ draft.fields, field.key = Text.fold name := by
  rw [chooseDisplay]
  cases draft.display with
  | none => exact ⟨fun _ name h => absurd h (by simp), fun _ => ⟨_, rfl⟩⟩
  | some name =>
    simp only [Option.some.injEq, forall_eq', ← declares_iff]
    by_cases h : draft.declares (Text.fold name) = true
    · rw [if_pos h]
      exact ⟨fun _ => h, fun _ => ⟨_, rfl⟩⟩
    · rw [if_neg h]
      exact ⟨fun hok => absurd hok (by simp), fun hdeclared => absurd hdeclared h⟩

/-- **When a draft is built.** -/
theorem exists_build_eq_ok_iff : (∃ schema, draft.build token = .ok schema) ↔
    isTagName draft.name = true ∧ (∀ field ∈ draft.fields, isTagName field.name = true) ∧
      (draft.fields.map Field.key).Nodup ∧
      ∀ name, draft.display = some name → ∃ field ∈ draft.fields, field.key = Text.fold name := by
  constructor
  · rintro ⟨schema, h⟩
    obtain ⟨hname, hcheck, display, hdisplay, -⟩ := build_eq_ok h
    obtain ⟨hnames, -, hnodup⟩ := checkFields_eq_ok hcheck
    exact ⟨hname, hnames, hnodup, exists_chooseDisplay_eq_ok_iff.mp ⟨display, hdisplay⟩⟩
  · rintro ⟨hname, hnames, hnodup, hdisplay⟩
    obtain ⟨display, hdisplay⟩ := exists_chooseDisplay_eq_ok_iff.mpr hdisplay
    have hcheck : checkFields draft.name [] draft.fields = .ok () :=
      checkFields_of_nodup hnames (by simp) hnodup
    refine ⟨⟨token, draft.name, draft.fields, display⟩, ?_⟩
    rw [build, hname, hcheck, hdisplay]
    rfl

/-! ## Building after calls -/

variable {name : String} {calls : List Call}

/-- Calls lead to a schema exactly when all names can be written, no two fields have one name up to
case, and the display that is designated is declared. -/
theorem exists_schema_iff : (∃ schema, (after name calls).build token = .ok schema) ↔
    isTagName name = true ∧ (∀ field ∈ declared calls, isTagName field.name = true) ∧
      (declared calls).Pairwise (fun field other => Text.fold field.name ≠ Text.fold other.name) ∧
      ∀ display, designated? calls = some display →
        ∃ field ∈ declared calls, Text.fold field.name = Text.fold display := by
  rw [exists_build_eq_ok_iff, after_eq, List.Nodup, List.pairwise_map]
  rfl

/-- The schema that comes out of calls. -/
theorem build_after_eq_ok (h : (after name calls).build token = .ok schema) :
    schema.name = name ∧ schema.fields = declared calls ∧
      schema.fieldNames = (declared calls).map (fun field => Text.fold field.name) ∧
      schema.fieldNames.Nodup ∧ ∀ key, schema.display = some key → key ∈ schema.fieldNames := by
  have hbuilt : schema.Built := ⟨token, _, h⟩
  have hnodup : schema.fieldNames.Nodup := hbuilt.nodup_keys
  have hdisplay : ∀ key, schema.display = some key → key ∈ schema.fieldNames :=
    fun key hkey => List.mem_map.mpr (hbuilt.exists_of_display hkey)
  rw [after_eq] at h
  obtain ⟨-, -, display, -, rfl⟩ := build_eq_ok h
  exact ⟨rfl, rfl, rfl, hnodup, hdisplay⟩

end Draft

/-- A declared field is found under every spelling of its name. -/
theorem Schema.field?_eq_some_of_mem {schema : Schema} (hnodup : schema.fieldNames.Nodup)
    {field : Field} (hfield : field ∈ schema.fields) {name : String}
    (hname : Text.fold name = Text.fold field.name) : schema.field? name = some field := by
  have hsome := isSome_field?_key hfield
  obtain ⟨found, hfound⟩ := Option.isSome_iff_exists.mp hsome
  obtain ⟨hmem, hkey⟩ := field?_eq_some hfound
  obtain rfl : found = field :=
    List.inj_on_of_nodup_map hnodup hmem hfield (hkey.trans (Text.fold_fold field.name))
  rw [field?_congr (hname.trans (Text.fold_fold found.name).symm)]
  exact hfound

end TagTemplates
