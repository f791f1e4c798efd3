import TagTemplates.Proofs.Liquid.Reading
import TagTemplates.Proofs.Registry.Known
import TagTemplates.Proofs.Tag.Grammar
import TagTemplates.Proofs.Tag.Written

/-!
# Registries of identifiers

When all declared names begin with a letter or an underscore, every path that resolves can be
written as a variable: the steps of a walk repeat the names of fields, folded.

* `isIdentifier`, `Registry.Identifiers`: the names that a template language takes.
* `run_of_fold_eq`: a name that differs from a tag name in case only.
* `readableName_fold`: such a name can be read, folded.
* `exists_field_of_walk`: the steps of a walk are names of fields.
* `readable_of_resolveTag`: the canonical path of a resolution can be written as a variable.
-/

namespace TagTemplates

open Liquid

/-- A name that begins with a letter or an underscore and is no literal word, in any case. -/
def isIdentifier (name : String) : Bool :=
  Text.beginsIn beginsVariable name.toList && !literalWords.contains (Text.fold name)

/-- The names of the schemas that paths begin with, and those of all the fields that a walk can
meet, are identifiers. -/
structure Registry.Identifiers (registry : Registry) : Prop where
  schemas : ∀ schema ∈ registry.schemas, isIdentifier schema.name = true
  fields : ∀ schema, registry.Knows schema → ∀ field ∈ schema.fields, isIdentifier field.name = true

/-! ## Folded names -/

/-- A name that is folded to the same as a tag name is one. -/
theorem run_of_fold_eq {name other : String} (hname : isTagName name = true)
    (h : Text.fold other = Text.fold name) : Run Text.isNameChar other.toList := by
  obtain ⟨hne, hall⟩ := Bool.and_eq_true_iff.mp hname
  have hchars : Text.foldChars other.toList = Text.foldChars name.toList := by
    rw [← Text.toList_fold, ← Text.toList_fold, h]
  refine ⟨fun hnil => ?_, fun c hc => ?_⟩
  · rw [hnil] at hchars
    have hempty : name.toList = [] := List.map_eq_nil_iff.mp hchars.symm
    simp [hempty] at hne
  · have hmem : c.toLower ∈ Text.foldChars name.toList := hchars ▸ List.mem_map_of_mem hc
    obtain ⟨d, hd, hlower⟩ := List.mem_map.mp hmem
    rw [← Text.isNameChar_toLower_iff, ← hlower, Text.isNameChar_toLower_iff]
    exact List.all_eq_true.mp hall d hd

/-- A character begins a variable exactly when its code lies in one of three ranges. -/
theorem beginsVariable_iff (c : Char) : beginsVariable c = true ↔
    65 ≤ c.toNat ∧ c.toNat ≤ 90 ∨ 97 ≤ c.toNat ∧ c.toNat ≤ 122 ∨ c.toNat = 95 := by
  have hunder : c = '_' ↔ c.toNat = 95 := Char.toNat_inj.symm
  unfold beginsVariable Char.isAlpha Char.isUpper Char.isLower
  simp only [Bool.or_eq_true, Bool.and_eq_true, decide_eq_true_eq, beq_iff_eq, hunder,
    UInt32.le_iff_toNat_le, ge_iff_le]
  show (65 ≤ c.toNat ∧ c.toNat ≤ 90 ∨ 97 ≤ c.toNat ∧ c.toNat ≤ 122) ∨ c.toNat = 95 ↔ _
  omega

theorem beginsVariable_toLower_iff (c : Char) :
    beginsVariable c.toLower = true ↔ beginsVariable c = true := by
  rw [beginsVariable_iff, beginsVariable_iff, Text.toNat_toLower]
  split <;> omega

/-- A tag name that begins like a variable can be read, folded. -/
theorem readableName_fold {name : String} (hname : isTagName name = true)
    (hbegins : Text.beginsIn beginsVariable name.toList = true) :
    readableName (Text.fold name) = true := by
  obtain ⟨-, hall⟩ := Bool.and_eq_true_iff.mp hname
  rw [readableName, Text.toList_fold, Text.foldChars, Bool.and_eq_true_iff]
  constructor
  · cases hchars : name.toList with
    | nil =>
      rw [hchars] at hbegins
      exact absurd hbegins (by simp [Text.beginsIn])
    | cons c rest =>
      rw [hchars] at hbegins
      have hc : beginsVariable c = true := hbegins
      show beginsVariable c.toLower = true
      exact (beginsVariable_toLower_iff c).mpr hc
  · rw [List.all_map, List.all_eq_true]
    intro c hc
    exact (Text.isNameChar_toLower_iff c).mpr (List.all_eq_true.mp hall c hc)

/-- An identifier can be read, folded, and is no literal word. -/
theorem readableName_of_isIdentifier {name : String} (hname : isTagName name = true)
    (h : isIdentifier name = true) :
    readableName (Text.fold name) = true ∧ Text.fold name ∉ literalWords := by
  obtain ⟨hbegins, hword⟩ := Bool.and_eq_true_iff.mp h
  refine ⟨readableName_fold hname hbegins, fun hmem => ?_⟩
  rw [List.contains_iff_mem.mpr hmem] at hword
  exact absurd hword (by simp)

namespace Registry

variable {registry : Registry}

/-! ## Steps of a walk -/

/-- **The steps of a walk are names of fields.**  By induction on the steps; a walk from a known
schema meets known schemas only. -/
theorem exists_field_of_walk : ∀ (steps : List Step) {schema : Schema} {last : Endpoint},
    registry.Knows schema → steps.foldlM registry.advance (.record schema) = .ok last →
      ∀ s ∈ steps, ∃ owner, registry.Knows owner ∧ ∃ field ∈ owner.fields,
        field.key = Text.fold s.name
  | [], _, _, _, _, s, hs => absurd hs List.not_mem_nil
  | t :: rest, schema, last, hknows, hwalk, s, hs => by
    cases ht : registry.step schema t with
    | error e =>
      rw [foldlM_advance_cons_of_error (advance_record_of_error ht)] at hwalk
      exact absurd hwalk (by simp)
    | ok landing =>
      obtain ⟨field, hfield, -, -⟩ := step_eq_ok ht
      obtain ⟨hmem, hkey⟩ := Schema.field?_eq_some hfield
      rcases List.mem_cons.mp hs with rfl | hrest
      · exact ⟨schema, hknows, field, hmem, hkey⟩
      · cases landing with
        | nested behind target =>
          rw [foldlM_advance_cons_of_ok (advance_record_of_nested ht)] at hwalk
          exact exists_field_of_walk rest (hknows.step ht) hwalk s hrest
        | terminal found =>
          rw [foldlM_advance_cons_of_ok (advance_record_of_terminal ht)] at hwalk
          cases rest with
          | nil => exact absurd hrest List.not_mem_nil
          | cons u rest =>
            rw [foldlM_advance_cons_of_error (advance_field schema found u)] at hwalk
            exact absurd hwalk (by simp)

/-- The steps of a resolution were written by the author. -/
theorem mem_of_mem_stepsBelow {root : Schema} {steps : List Step} {s : Step}
    (h : s ∈ stepsBelow root steps) : s ∈ steps := by
  rw [stepsBelow] at h
  split at h
  · exact List.mem_of_mem_drop h
  · exact h

/-- What a tag that resolves is looked up by. -/
theorem steps_canonical (r : Resolution) :
    r.canonical.steps = ⟨r.root.key, none⟩ :: r.steps := rfl

/-- The root of a resolution is a name that can be read, and no literal word. -/
theorem Identifiers.readable_root (hnames : registry.Identifiers)
    (hbuilt : ∀ schema, registry.Knows schema → schema.Built) {root : Schema}
    (h : root ∈ registry.schemas) :
    readableName root.key = true ∧ root.key ∉ literalWords :=
  readableName_of_isIdentifier (hbuilt root (Knows.registered h)).isTagName (hnames.schemas root h)

/-- **The canonical path of a tag that resolves can be written as a variable.** -/
theorem Identifiers.readable_of_resolveTag (hnames : registry.Identifiers)
    (hbuilt : ∀ schema, registry.Knows schema → schema.Built) {path : Path} {r : Resolution}
    (hwritten : ∀ s ∈ path.steps, s.Written) (h : registry.resolveTag path = .ok r) :
    ∀ s ∈ r.canonical.steps, s.Readable := by
  obtain ⟨-, hlookup, hsteps, hwalk, -⟩ := resolveTag_eq_ok_iff.mp h
  have hroot := (mem_of_lookup?_eq_some hlookup).1
  rw [steps_canonical, List.forall_mem_cons]
  refine ⟨⟨(hnames.readable_root hbuilt hroot).1, fun i hi => absurd hi (by simp)⟩, ?_⟩
  intro s hs
  have hmem : s ∈ path.steps := by
    rw [hsteps] at hs
    exact List.mem_cons_of_mem path.root (mem_of_mem_stepsBelow hs)
  obtain ⟨hfold, hindex⟩ := hwritten s hmem
  obtain ⟨owner, hknows, field, hfield, hkey⟩ :=
    exists_field_of_walk r.steps (Knows.registered hroot) hwalk s hs
  have hread := (readableName_of_isIdentifier ((hbuilt owner hknows).isTagName_field field hfield)
    (hnames.fields owner hknows field hfield)).1
  refine ⟨?_, fun i hi => ?_⟩
  · rw [← hfold, ← hkey]
    exact hread
  · have hbound := hindex i hi
    rw [maxIndex] at hbound
    rw [Number.signedLimit]
    omega

end Registry

end TagTemplates
