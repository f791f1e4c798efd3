import TagTemplates.Proofs.Attempts
import TagTemplates.Proofs.Text.Basic
import TagTemplates.Schema.Draft

/-!
# Schemas that are built

A schema comes out of a draft.  What the checks of a draft leave true of the schema is told here.

* `Draft.checkFields_eq_ok`, `Draft.build_eq_ok`, `Draft.declares_of_chooseDisplay`: the checks,
  undone.
* `Schema.Built`: a schema that came out of a draft, with `Built.isTagName`,
  `Built.isTagName_field`, `Built.nodup_keys` and `Built.exists_of_display`.
* `Schema.field?_eq_some`, `Schema.field?_congr`, `Schema.isSome_field?_key`: looking up fields.
-/

namespace TagTemplates

namespace Draft

/-- What the check of the fields leaves true. -/
theorem checkFields_eq_ok {schema : String} : ∀ {fields : List Field} {seen : List String},
    checkFields schema seen fields = .ok () →
      (∀ field ∈ fields, isTagName field.name = true) ∧ (∀ field ∈ fields, field.key ∉ seen) ∧
        (fields.map Field.key).Nodup
  | [], _, _ => ⟨by simp, by simp, List.nodup_nil⟩
  | field :: rest, seen, h => by
    rw [checkFields] at h
    by_cases hname : isTagName field.name = true
    · by_cases hseen : seen.contains field.key = true
      · rw [if_neg (by simp [hname]), if_pos hseen] at h
        exact absurd h (by simp)
      · rw [if_neg (by simp [hname]), if_neg hseen] at h
        obtain ⟨hnames, hfresh, hnodup⟩ := checkFields_eq_ok h
        refine ⟨List.forall_mem_cons.mpr ⟨hname, hnames⟩,
          List.forall_mem_cons.mpr ⟨by simpa using hseen, fun other hother => ?_⟩, ?_⟩
        · exact fun hmem => hfresh other hother (List.mem_cons_of_mem _ hmem)
        · rw [List.map_cons, List.nodup_cons]
          refine ⟨fun hmem => ?_, hnodup⟩
          obtain ⟨other, hother, hkey⟩ := List.mem_map.mp hmem
          exact hfresh other hother (hkey ▸ List.mem_cons_self)
    · rw [if_pos (by simpa using hname)] at h
      exact absurd h (by simp)

/-- A draft is built when its names can be written in a tag, no field is declared twice, and its
display is declared. -/
theorem build_eq_ok {token : Nat} {draft : Draft} {schema : Schema}
    (h : draft.build token = .ok schema) :
    isTagName draft.name = true ∧ checkFields draft.name [] draft.fields = .ok () ∧
      ∃ display, draft.chooseDisplay = .ok display ∧
        schema = ⟨token, draft.name, draft.fields, display⟩ := by
  rw [build] at h
  by_cases hname : isTagName draft.name = true
  · simp only [hname] at h
    obtain ⟨u, hu, h⟩ := bind_eq_ok_iff.mp h
    obtain ⟨display, hdisplay, h⟩ := bind_eq_ok_iff.mp h
    exact ⟨hname, hu, display, hdisplay, (Except.ok.inj h).symm⟩
  · rw [Bool.not_eq_true] at hname
    simp only [hname] at h
    exact absurd h (by simp [throw, throwThe, MonadExceptOf.throw, bind, Except.bind])

theorem mem_of_declares {draft : Draft} {key : String} (h : draft.declares key = true) :
    ∃ field ∈ draft.fields, field.key = key :=
  List.mem_map.mp (List.contains_iff_mem.mp h)

/-- The display of a draft is one of its fields. -/
theorem declares_of_chooseDisplay {draft : Draft} {key : String}
    (h : draft.chooseDisplay = .ok (some key)) : draft.declares key = true := by
  rw [chooseDisplay] at h
  cases hdisplay : draft.display with
  | some name =>
    simp only [hdisplay] at h
    split at h
    · rename_i hdeclared
      obtain rfl : Text.fold name = key := Option.some_inj.mp (Except.ok.inj h)
      exact hdeclared
    · exact absurd h (by simp)
  | none =>
    simp only [hdisplay, Except.ok.injEq] at h
    split at h
    · rename_i hdeclared
      obtain rfl : defaultDisplayField = key := Option.some_inj.mp h
      exact hdeclared
    · exact absurd h (by simp)

end Draft

namespace Schema

/-- A schema that came out of a draft. -/
def Built (schema : Schema) : Prop := ∃ token draft, Draft.build token draft = .ok schema

variable {schema : Schema}

theorem Built.isTagName (h : schema.Built) : isTagName schema.name = true := by
  obtain ⟨token, draft, hbuild⟩ := h
  obtain ⟨hname, -, display, -, rfl⟩ := Draft.build_eq_ok hbuild
  exact hname

theorem Built.isTagName_field (h : schema.Built) :
    ∀ field ∈ schema.fields, TagTemplates.isTagName field.name = true := by
  obtain ⟨token, draft, hbuild⟩ := h
  obtain ⟨-, hcheck, display, -, rfl⟩ := Draft.build_eq_ok hbuild
  exact (Draft.checkFields_eq_ok hcheck).1

theorem Built.nodup_keys (h : schema.Built) : (schema.fields.map Field.key).Nodup := by
  obtain ⟨token, draft, hbuild⟩ := h
  obtain ⟨-, hcheck, display, -, rfl⟩ := Draft.build_eq_ok hbuild
  exact (Draft.checkFields_eq_ok hcheck).2.2

/-- The display of a schema is one of its fields. -/
theorem Built.exists_of_display (h : schema.Built) {key : String}
    (hdisplay : schema.display = some key) : ∃ field ∈ schema.fields, field.key = key := by
  obtain ⟨token, draft, hbuild⟩ := h
  obtain ⟨-, -, display, hchoose, rfl⟩ := Draft.build_eq_ok hbuild
  obtain rfl : display = some key := hdisplay
  exact Draft.mem_of_declares (Draft.declares_of_chooseDisplay hchoose)

/-- A name is told by what it is folded to. -/
theorem hasName_congr {a b : String} (h : Text.fold a = Text.fold b) :
    schema.hasName a = schema.hasName b := by
  rw [hasName, hasName, Text.sameName, Text.sameName, h]

theorem field?_congr {a b : String} (h : Text.fold a = Text.fold b) :
    schema.field? a = schema.field? b := by
  rw [field?, field?]
  refine congrArg (fun p => schema.fields.find? p) (funext fun field => ?_)
  rw [Text.sameName, Text.sameName, h]

theorem field?_eq_some {name : String} {field : Field} (h : schema.field? name = some field) :
    field ∈ schema.fields ∧ field.key = Text.fold name := by
  rw [field?] at h
  have hname : Text.sameName field.name name = true := by
    have hfound := List.find?_some h
    exact hfound
  exact ⟨List.mem_of_find?_eq_some h, Text.sameName_iff.mp hname⟩

/-- A declared field is found under its key. -/
theorem isSome_field?_key {field : Field} (h : field ∈ schema.fields) :
    (schema.field? field.key).isSome = true := by
  rw [field?, List.find?_isSome]
  exact ⟨field, h, Text.sameName_iff.mpr (Text.fold_fold field.name).symm⟩

end Schema

end TagTemplates
