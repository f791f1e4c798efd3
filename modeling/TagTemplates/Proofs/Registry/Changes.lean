import Mathlib.Data.List.Nodup
import TagTemplates.Registry.Basic

/-!
# Changing a registry

What the operations of a registry do to its list.  A schema is put at the end of the list unless it
is there, so it never stands there twice, and then it is one schema that is taken out of the list,
wherever it stands.

* `register_of_mem`, `register_of_notMem`: registering one schema.
* `unregister_of_mem`, `unregister_of_notMem`: taking one away, or being refused.
* `scope_snd`, `schemas_scope`, `registerAll_eq`, `scope_fst`: what a scope adds, and that it adds
  nothing else than registering its schemas would.
* `registerAll_of_nodup`: new schemas are added in the order of their list.
* `schemas_release`: what is left when a scope is over.
-/

namespace TagTemplates

namespace Registry

variable {registry : Registry} {schema : Schema}

theorem contains_iff : registry.contains schema = true ↔ schema ∈ registry.schemas :=
  List.contains_iff_mem

/-! ## One schema -/

theorem register_of_mem (h : schema ∈ registry.schemas) : registry.register schema = registry :=
  if_pos (contains_iff.mpr h)

theorem register_of_notMem (h : schema ∉ registry.schemas) :
    registry.register schema = ⟨registry.schemas ++ [schema]⟩ :=
  if_neg fun hcontains => h (contains_iff.mp hcontains)

theorem erase_of_notMem (h : schema ∉ registry.schemas) : registry.erase schema = registry := by
  rw [erase, List.erase_of_not_mem h]

theorem unregister_of_mem (h : schema ∈ registry.schemas) :
    registry.unregister schema = .ok (registry.erase schema) :=
  if_pos (contains_iff.mpr h)

theorem unregister_of_notMem (h : schema ∉ registry.schemas) :
    registry.unregister schema = .error (.notRegistered schema.name) :=
  if_neg fun hcontains => h (contains_iff.mp hcontains)

/-- Where no schema stands twice, all others are kept when one is taken away. -/
theorem schemas_erase (h : registry.schemas.Nodup) (schema : Schema) :
    (registry.erase schema).schemas = registry.schemas.filter (· ≠ schema) := by
  rw [erase, h.erase_eq_filter]
  exact List.filter_congr fun other _ => Bool.eq_iff_iff.mpr (by simp)

/-! ## Scopes -/

theorem scope_cons_of_mem (h : schema ∈ registry.schemas) (rest : List Schema) :
    registry.scope (schema :: rest) = registry.scope rest := by
  rw [scope, if_pos (contains_iff.mpr h)]

theorem scope_cons_of_notMem (h : schema ∉ registry.schemas) (rest : List Schema) :
    registry.scope (schema :: rest) =
      (schema :: ((registry.register schema).scope rest).1,
        ((registry.register schema).scope rest).2) := by
  rw [scope, if_neg fun hcontains => h (contains_iff.mp hcontains)]

/-- Inside a scope the same schemas are registered as if they were registered for good. -/
theorem scope_snd : ∀ (schemas : List Schema) (registry : Registry),
    (registry.scope schemas).2 = registry.registerAll schemas
  | [], _ => rfl
  | schema :: rest, registry => by
    have hcons : registry.registerAll (schema :: rest) =
        (registry.register schema).registerAll rest := rfl
    by_cases h : schema ∈ registry.schemas
    · rw [scope_cons_of_mem h, hcons, register_of_mem h, scope_snd rest registry]
    · rw [scope_cons_of_notMem h, hcons, scope_snd rest]

/-- What a scope adds stands behind everything else. -/
theorem schemas_scope : ∀ (schemas : List Schema) (registry : Registry),
    (registry.scope schemas).2.schemas = registry.schemas ++ (registry.scope schemas).1
  | [], registry => (List.append_nil registry.schemas).symm
  | schema :: rest, registry => by
    by_cases h : schema ∈ registry.schemas
    · rw [scope_cons_of_mem h, schemas_scope rest registry]
    · rw [scope_cons_of_notMem h, schemas_scope rest, register_of_notMem h, List.append_assoc]
      rfl

/-- Registering schemas puts behind everything else what a scope would add. -/
theorem registerAll_eq (schemas : List Schema) (registry : Registry) :
    registry.registerAll schemas = ⟨registry.schemas ++ (registry.scope schemas).1⟩ := by
  rw [← schemas_scope, scope_snd]

/-- Different schemas are registered in the order of their list. -/
theorem registerAll_of_nodup : ∀ {schemas : List Schema} {registry : Registry}, schemas.Nodup →
    (∀ schema ∈ schemas, schema ∉ registry.schemas) →
      registry.registerAll schemas = ⟨registry.schemas ++ schemas⟩
  | [], registry, _, _ => by
    rw [List.append_nil]
    rfl
  | schema :: rest, registry, hnodup, hnew => by
    obtain ⟨hfresh, hrest⟩ := List.nodup_cons.mp hnodup
    obtain ⟨hschema, hothers⟩ := List.forall_mem_cons.mp hnew
    have hregister := register_of_notMem hschema
    have hcons : registry.registerAll (schema :: rest) =
        (registry.register schema).registerAll rest := rfl
    rw [hcons, registerAll_of_nodup hrest, hregister, List.append_assoc]
    · rfl
    · intro other hother
      rw [hregister, List.mem_append, List.mem_singleton, not_or]
      refine ⟨hothers other hother, ?_⟩
      rintro rfl
      exact hfresh hother

/-- A scope adds the schemas of its list that are not registered, each of them once and in the
order of the list. -/
theorem scope_fst : ∀ (schemas : List Schema) (registry : Registry),
    (registry.scope schemas).1.Sublist schemas ∧ (registry.scope schemas).1.Nodup ∧
      ∀ schema, schema ∈ (registry.scope schemas).1 ↔ schema ∈ schemas ∧ schema ∉ registry.schemas
  | [], registry => ⟨List.Sublist.slnil, List.nodup_nil, fun schema => by simp [scope]⟩
  | schema :: rest, registry => by
    by_cases h : schema ∈ registry.schemas
    · obtain ⟨hsub, hnodup, hmem⟩ := scope_fst rest registry
      rw [scope_cons_of_mem h]
      refine ⟨hsub.cons schema, hnodup, fun other => ?_⟩
      rw [hmem, List.mem_cons]
      constructor
      · rintro ⟨hrest, hnew⟩
        exact ⟨Or.inr hrest, hnew⟩
      · rintro ⟨rfl | hrest, hnew⟩
        · exact absurd h hnew
        · exact ⟨hrest, hnew⟩
    · obtain ⟨hsub, hnodup, hmem⟩ := scope_fst rest (registry.register schema)
      rw [scope_cons_of_notMem h]
      -- the schema itself is registered by now, so the rest of the list does not add it again
      have hothers : ∀ other, other ∈ ((registry.register schema).scope rest).1 ↔
          other ∈ rest ∧ other ∉ registry.schemas ∧ other ≠ schema := by
        intro other
        rw [hmem, register_of_notMem h, List.mem_append, List.mem_singleton, not_or]
      refine ⟨hsub.cons_cons schema, List.nodup_cons.mpr ⟨?_, hnodup⟩, fun other => ?_⟩
      · rw [hothers]
        exact fun hself => hself.2.2 rfl
      · rw [List.mem_cons, List.mem_cons, hothers]
        by_cases hother : other = schema
        · subst hother
          exact ⟨fun _ => ⟨Or.inl rfl, h⟩, fun _ => Or.inl rfl⟩
        · simp [hother]

/-- When a scope is over, exactly what it added is gone. -/
theorem schemas_release : ∀ (added : List Schema) {registry : Registry}, registry.schemas.Nodup →
    (registry.release added).schemas = registry.schemas.filter (· ∉ added)
  | [], registry, _ => by
    show registry.schemas = _
    rw [List.filter_eq_self.mpr fun schema _ => by simp]
  | schema :: rest, registry, h => by
    have herased : (registry.erase schema).schemas.Nodup := h.erase schema
    show ((registry.erase schema).release rest).schemas = _
    rw [schemas_release rest herased, schemas_erase h, List.filter_filter]
    exact List.filter_congr fun other _ => by simp [Bool.and_comm]

end Registry

end TagTemplates
