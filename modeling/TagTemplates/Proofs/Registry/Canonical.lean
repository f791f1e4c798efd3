import TagTemplates.Proofs.Registry.Completion
import TagTemplates.Proofs.Registry.Identifiers
import TagTemplates.Proofs.Tag.Sources

/-!
# Canonical paths

The canonical path of a resolution begins with the name of its root and goes on with the steps that
were taken.  A first step that only repeats the root was left out; it cannot have to be left out a
second time, because what is taken from a root names a field of it.

* `skipsRootAlias_of_walk`: what is walked from a root is not skipped.
* `stepsBelow_append`, `lead_append`: further steps behind a path.
* `resolveTag_canonical`: the canonical path resolves to the same.
* `mem_of_accepts`: the root and a step that is skipped have the name of the root schema and no index.
* `run_name_of_accepts`: the names of a path that resolves can be written.
-/

namespace TagTemplates

namespace Registry

variable {registry : Registry} {root : Schema} {s : Step} {steps more : List Step}
  {r : Resolution}

/-! ## Steps that are not skipped -/

/-- A step that names a field of the root is not skipped. -/
theorem skipsRootAlias_of_isSome (h : (root.field? s.name).isSome = true) (rest : List Step) :
    skipsRootAlias root (s :: rest) = false := by
  rw [skipsRootAlias, Option.isNone_eq_false_iff.mpr h, Bool.and_false]

/-- A step with an index is not skipped. -/
theorem skipsRootAlias_of_index {i : Nat} (h : s.index = some i) (rest : List Step) :
    skipsRootAlias root (s :: rest) = false := by
  rw [skipsRootAlias, h]
  rfl

theorem isSome_field?_of_advance {next : Endpoint}
    (h : registry.advance (.record root) s = .ok next) : (root.field? s.name).isSome = true := by
  cases hs : registry.step root s with
  | error e =>
    rw [advance_record_of_error hs] at h
    exact absurd h (by simp)
  | ok landing =>
    obtain ⟨field, hfield, -, -⟩ := step_eq_ok hs
    rw [hfield]
    rfl

/-- **What is walked from a root is not skipped.** -/
theorem skipsRootAlias_of_walk {last : Endpoint}
    (h : steps.foldlM registry.advance (.record root) = .ok last) :
    skipsRootAlias root steps = false := by
  cases steps with
  | nil => rfl
  | cons s rest =>
    obtain ⟨next, hs, -⟩ := foldlM_advance_cons_eq_ok h
    exact skipsRootAlias_of_isSome (isSome_field?_of_advance hs) rest

theorem stepsBelow_eq_self (h : skipsRootAlias root steps = false) :
    stepsBelow root steps = steps := by
  rw [stepsBelow, h]
  rfl

/-- Further steps are taken behind a path, unless the path is the root alone and they repeat it. -/
theorem stepsBelow_append (h : steps = [] → skipsRootAlias root more = false) :
    stepsBelow root (steps ++ more) = stepsBelow root steps ++ more := by
  cases steps with
  | nil => exact stepsBelow_eq_self (h rfl)
  | cons s rest =>
    rw [List.cons_append, stepsBelow, stepsBelow, skipsRootAlias_cons root s (rest ++ more) rest]
    by_cases hs : skipsRootAlias root (s :: rest) = true
    · rw [if_pos hs, if_pos hs]
      rfl
    · rw [if_neg hs, if_neg hs, List.cons_append]

/-- Further steps behind a path do not change which step is skipped. -/
theorem lead_append (h : steps = [] → skipsRootAlias root more = false) :
    lead root (steps ++ more) = lead root steps := by
  have hall := lead_append_stepsBelow root (steps ++ more)
  rw [stepsBelow_append h, ← List.append_assoc] at hall
  have hsteps := List.append_cancel_right hall
  exact List.append_cancel_right (hsteps.trans (lead_append_stepsBelow root steps).symm)

/-! ## The canonical path -/

/-- **The canonical path resolves to the same.** -/
theorem resolveTag_canonical {path : Path} (h : registry.resolveTag path = .ok r) :
    registry.resolveTag r.canonical = .ok r := by
  obtain ⟨-, hlookup, -, hwalk, hcrosses⟩ := resolveTag_eq_ok_iff.mp h
  refine resolveTag_eq_ok_iff.mpr ⟨rfl, ?_, ?_, hwalk, hcrosses⟩
  · have hkey : r.root.key = Text.fold path.root.name := (mem_of_lookup?_eq_some hlookup).2
    rw [← hlookup]
    refine lookup?_congr ?_
    show Text.fold r.root.key = Text.fold path.root.name
    rw [hkey, Text.fold_fold]
  · exact (stepsBelow_eq_self (skipsRootAlias_of_walk hwalk)).symm

/-! ## Names and indices -/

/-- The step that is skipped repeats the root and has no index. -/
theorem eq_of_mem_lead (h : s ∈ lead root steps) :
    s.index = none ∧ root.hasName s.name = true := by
  rw [lead] at h
  by_cases hskips : skipsRootAlias root steps = true
  · rw [if_pos hskips] at h
    cases steps with
    | nil => exact absurd h (by simp)
    | cons t rest =>
      obtain rfl : s = t := List.mem_singleton.mp h
      rw [skipsRootAlias] at hskips
      obtain ⟨hboth, -⟩ := Bool.and_eq_true_iff.mp hskips
      obtain ⟨hindex, hname⟩ := Bool.and_eq_true_iff.mp hboth
      exact ⟨Option.isNone_iff_eq_none.mp hindex, hname⟩
  · rw [if_neg hskips] at h
    exact absurd h List.not_mem_nil

/-- **What a path that resolves consists of**: its root and a step that is skipped have the name of
the root schema and no index, and the others are the steps that are walked. -/
theorem mem_of_accepts {first : Step} {rest : List Step} (h : registry.Accepts (first :: rest) r) :
    ∀ s ∈ first :: rest, (s.index = none ∧ Text.fold s.name = r.root.key) ∨ s ∈ r.steps := by
  obtain ⟨hindex, hlookup, hsteps, -, -⟩ := accepts_cons_iff.mp h
  refine List.forall_mem_cons.mpr ⟨Or.inl ⟨hindex, ?_⟩, fun s hs => ?_⟩
  · exact (mem_of_lookup?_eq_some hlookup).2.symm
  · rw [← lead_append_stepsBelow r.root rest] at hs
    rcases List.mem_append.mp hs with hlead | hbelow
    · obtain ⟨hnone, hname⟩ := eq_of_mem_lead hlead
      exact Or.inl ⟨hnone, (Text.sameName_iff.mp hname).symm⟩
    · exact Or.inr (hsteps ▸ hbelow)

/-- **The names of a path that resolves can be written.** -/
theorem run_name_of_accepts (hbuilt : ∀ schema, registry.Knows schema → schema.Built)
    (h : registry.Accepts steps r) : ∀ s ∈ steps, Run Text.isNameChar s.name.toList := by
  cases steps with
  | nil => exact absurd h not_accepts_nil
  | cons first rest =>
    obtain ⟨-, hlookup, -, hwalk, -⟩ := accepts_cons_iff.mp h
    have hroot := Knows.registered (mem_of_lookup?_eq_some hlookup).1
    intro s hs
    rcases mem_of_accepts h s hs with ⟨-, hkey⟩ | hbelow
    · exact run_of_fold_eq (hbuilt r.root hroot).isTagName hkey
    · obtain ⟨owner, hknows, field, hfield, hkey⟩ :=
        exists_field_of_walk r.steps hroot hwalk s hbelow
      exact run_of_fold_eq ((hbuilt owner hknows).isTagName_field field hfield) hkey.symm

end Registry

end TagTemplates
