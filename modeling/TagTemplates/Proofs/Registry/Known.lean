import TagTemplates.Proofs.Registry.Walk
import TagTemplates.Proofs.Schema.Built

/-!
# Schemas that a walk meets

A walk meets only schemas that are registered or held by the fields of others it meets.

* `Registry.Knows`: these schemas.
* `step_eq_ok`: what a step that succeeds does, with `step_eq_ok_nested` and `step_eq_ok_terminal`
  for the two kinds of fields.
* `target_eq_ok`: where the schema behind a nested field comes from.
* `Knows.target`, `Knows.step`, `Knows.walk`: known schemas lead to known schemas.
-/

namespace TagTemplates

namespace Registry

variable {registry : Registry}

/-- The schemas that a walk can meet: registered, or held by a field of another one. -/
inductive Knows (registry : Registry) : Schema → Prop where
  | registered {schema : Schema} : schema ∈ registry.schemas → registry.Knows schema
  | held {owner schema : Schema} {field : Field} : registry.Knows owner → field ∈ owner.fields →
      field.kind.target? = some (.direct schema) → registry.Knows schema

/-- A registry knows all that another one knows when it knows the schemas registered there. -/
theorem Knows.of_registered {other : Registry} {schema : Schema} (h : registry.Knows schema)
    (hregistered : ∀ s ∈ registry.schemas, other.Knows s) : other.Knows schema := by
  induction h with
  | registered hmem => exact hregistered _ hmem
  | held _ hfield htarget ih => exact .held ih hfield htarget

/-- The schema behind a nested field is held by the field, owns it, or is registered. -/
theorem target_eq_ok {owner target : Schema} {field : Field}
    (h : registry.target owner field = .ok target) :
    field.kind.target? = some (.direct target) ∨ owner = target ∨ target ∈ registry.schemas := by
  rw [Registry.target] at h
  cases hkind : field.kind.target? with
  | none =>
    rw [hkind] at h
    exact absurd h (by simp)
  | some reference =>
    rw [hkind] at h
    cases reference with
    | direct schema =>
      obtain rfl : schema = target := Except.ok.inj h
      exact Or.inl rfl
    | self => exact Or.inr (Or.inl (Except.ok.inj h))
    | named name =>
      cases hlookup : registry.lookup? name with
      | none =>
        simp only [hlookup] at h
        exact absurd h (by simp)
      | some schema =>
        simp only [hlookup] at h
        obtain rfl : schema = target := Except.ok.inj h
        exact Or.inr (Or.inr (List.mem_of_find?_eq_some hlookup))

/-- The schema behind a nested field is known when the owner of the field is. -/
theorem Knows.target {owner target : Schema} {field : Field} (h : registry.Knows owner)
    (hfield : field ∈ owner.fields) (htarget : registry.target owner field = .ok target) :
    registry.Knows target := by
  rcases target_eq_ok htarget with hdirect | rfl | hmem
  · exact Knows.held h hfield hdirect
  · exact h
  · exact Knows.registered hmem

/-- What a step that succeeds does: it finds a field, indexes nothing but lists, and leads to the
field itself or to the schema behind it. -/
theorem step_eq_ok {current : Schema} {s : Step} {landing : Landing}
    (h : registry.step current s = .ok landing) :
    ∃ field, current.field? s.name = some field ∧
      (s.index.isSome = true → field.kind.isMany = true) ∧
      ((field.kind.isTerminal = true ∧ landing = .terminal field) ∨
        (field.kind.isTerminal = false ∧ ∃ target, registry.target current field = .ok target ∧
          landing = .nested field target)) := by
  rw [step] at h
  cases hfield : current.field? s.name with
  | none =>
    rw [hfield] at h
    exact absurd h (by simp)
  | some field =>
    simp only [hfield] at h
    by_cases hindex : (s.index.isSome && !field.kind.isMany) = true
    · rw [if_pos hindex] at h
      exact absurd h (by simp)
    · rw [if_neg hindex] at h
      refine ⟨field, rfl, by simpa using hindex, ?_⟩
      by_cases hterminal : field.kind.isTerminal = true
      · rw [if_pos hterminal] at h
        exact Or.inl ⟨hterminal, (Except.ok.inj h).symm⟩
      · rw [if_neg hterminal] at h
        cases htarget : registry.target current field with
        | error e =>
          rw [htarget] at h
          exact absurd h (by simp)
        | ok target =>
          rw [htarget] at h
          exact Or.inr ⟨by simpa using hterminal, target, rfl, (Except.ok.inj h).symm⟩

/-- What a step through a nested field is. -/
theorem step_eq_ok_nested {current target : Schema} {s : Step} {field : Field}
    (h : registry.step current s = .ok (.nested field target)) :
    current.field? s.name = some field ∧ (s.index.isSome = true → field.kind.isMany = true) ∧
      field.kind.isTerminal = false ∧ registry.target current field = .ok target := by
  obtain ⟨found, hfield, hindex, ⟨-, hland⟩ | ⟨hterminal, schema, htarget, hland⟩⟩ := step_eq_ok h
  · exact absurd hland (by simp)
  · obtain ⟨rfl, rfl⟩ := Landing.nested.inj hland
    exact ⟨hfield, hindex, hterminal, htarget⟩

/-- What a step to a field that ends every path is. -/
theorem step_eq_ok_terminal {current : Schema} {s : Step} {field : Field}
    (h : registry.step current s = .ok (.terminal field)) :
    current.field? s.name = some field ∧ s.index = none ∧ field.kind.isTerminal = true := by
  obtain ⟨found, hfield, hindex, ⟨hterminal, hland⟩ | ⟨-, schema, -, hland⟩⟩ := step_eq_ok h
  · obtain rfl := Landing.terminal.inj hland
    refine ⟨hfield, ?_, hterminal⟩
    cases hi : s.index with
    | none => rfl
    | some i =>
      have hmany := hindex (by rw [hi]; rfl)
      cases hkind : field.kind with
      | many target => simp [FieldKind.isTerminal, FieldKind.target?, hkind] at hterminal
      | scalar => simp [FieldKind.isMany, hkind] at hmany
      | one target => simp [FieldKind.isMany, hkind] at hmany
      | template text tags => simp [FieldKind.isMany, hkind] at hmany
  · exact absurd hland (by simp)

/-- A step from a known schema leads to known schemas only. -/
theorem Knows.step {current target : Schema} {s : Step} {field : Field}
    (h : registry.Knows current) (hs : registry.step current s = .ok (.nested field target)) :
    registry.Knows target := by
  obtain ⟨hfield, -, -, htarget⟩ := step_eq_ok_nested hs
  exact h.target (Schema.field?_eq_some hfield).1 htarget

/-- The record that a walk from a known schema ends on is known. -/
theorem Knows.walk : ∀ {steps : List Step} {root owner : Schema}, registry.Knows root →
    steps.foldlM registry.advance (.record root) = .ok (.record owner) → registry.Knows owner
  | [], root, owner, h, hwalk => by
    obtain rfl : root = owner := Endpoint.record.inj (Except.ok.inj hwalk)
    exact h
  | s :: rest, root, owner, h, hwalk => by
    obtain ⟨field, target, hs, hrest⟩ := exists_nested_of_walk hwalk
    exact (h.step hs).walk hrest

end Registry

end TagTemplates
