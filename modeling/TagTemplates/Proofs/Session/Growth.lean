import Mathlib.Logic.Relation
import TagTemplates.Proofs.Registry.Changes
import TagTemplates.Proofs.Registry.Completion
import TagTemplates.Proofs.Registry.Known
import TagTemplates.Proofs.Session.Rendering

/-!
# What resolves goes on resolving

A registry grows when further schemas are registered, for good or for a while.  Names may be taken
already, and nested fields look the names of their schemas up anew with every step; but the schema
that was registered first goes on being the one that a name means, so nothing that resolves is led
elsewhere.

* `Grows`: registries that come one from another by registrations.
* `Extends`: every name that means a schema goes on meaning it, with `Grows.extends`.
* `Extends.target`, `Extends.step`, `Extends.advance`: one step that can be taken.
* `Extends.foldlM_advance`, `Extends.crosses`, `Extends.completeSteps`: whole walks.
* `resolves_of_grows`: tags and completions.
-/

namespace TagTemplates

namespace Registry

/-- A registration: of one schema, of several, or of the schemas of a scope. -/
inductive Enrols (registry : Registry) : Registry → Prop where
  | register (schema : Schema) : registry.Enrols (registry.register schema)
  | registerAll (schemas : List Schema) : registry.Enrols (registry.registerAll schemas)
  | scope (schemas : List Schema) : registry.Enrols (registry.scope schemas).2

/-- Registrations, one after another. -/
def Grows : Registry → Registry → Prop := Relation.ReflTransGen Enrols

/-- Every name that means a schema means the same schema in the other registry. -/
def Extends (registry more : Registry) : Prop :=
  ∀ (name : String) (schema : Schema),
    registry.lookup? name = some schema → more.lookup? name = some schema

variable {registry more : Registry}

/-! ## Registrations -/

theorem schemas_isPrefix_registerAll (registry : Registry) (schemas : List Schema) :
    registry.schemas <+: (registry.registerAll schemas).schemas := by
  rw [registerAll_eq]
  exact List.prefix_append _ _

/-- **A registration puts schemas behind those that are there.** -/
theorem Enrols.schemas_isPrefix (h : registry.Enrols more) : registry.schemas <+: more.schemas := by
  cases h with
  | register schema => exact schemas_isPrefix_registerAll registry [schema]
  | registerAll schemas => exact schemas_isPrefix_registerAll registry schemas
  | scope schemas =>
    rw [scope_snd]
    exact schemas_isPrefix_registerAll registry schemas

theorem Grows.schemas_isPrefix (h : registry.Grows more) : registry.schemas <+: more.schemas := by
  induction h with
  | refl => exact List.prefix_refl _
  | tail _ henrols ih => exact ih.trans henrols.schemas_isPrefix

/-- **The schema registered first keeps its name.** -/
theorem Grows.extends (h : registry.Grows more) : registry.Extends more :=
  fun _ _ hfound => h.schemas_isPrefix.find?_eq_some hfound

/-! ## One step -/

namespace Extends

theorem target (h : registry.Extends more) {owner schema : Schema} {field : Field}
    (htarget : registry.target owner field = .ok schema) :
    more.target owner field = .ok schema := by
  rw [Registry.target] at htarget ⊢
  cases hkind : field.kind.target? with
  | none => simp [hkind] at htarget
  | some reference =>
    rw [hkind] at htarget
    cases reference with
    | direct held => exact htarget
    | self => exact htarget
    | named name =>
      cases hlookup : registry.lookup? name with
      | none => simp [hlookup] at htarget
      | some found =>
        simp only [hlookup] at htarget
        simp only [h _ _ hlookup]
        exact htarget

theorem step (h : registry.Extends more) {current : Schema} {s : Step} {landing : Landing}
    (hs : registry.step current s = .ok landing) : more.step current s = .ok landing := by
  obtain ⟨field, hfield, hindex, hland⟩ := step_eq_ok hs
  have hallowed : (s.index.isSome && !field.kind.isMany) = false := by simpa using hindex
  simp only [Registry.step, hfield, hallowed]
  obtain ⟨hterminal, rfl⟩ | ⟨hterminal, target, htarget, rfl⟩ := hland
  · simp [hterminal]
  · simp [hterminal, h.target htarget]

theorem advance (h : registry.Extends more) {endpoint next : Endpoint} {s : Step}
    (hs : registry.advance endpoint s = .ok next) : more.advance endpoint s = .ok next := by
  cases endpoint with
  | field owner field => exact hs
  | record schema =>
    cases hstep : registry.step schema s with
    | error e =>
      rw [advance_record_of_error hstep] at hs
      exact absurd hs (by simp)
    | ok landing =>
      have hmore := h.step hstep
      cases landing with
      | nested field target =>
        rw [advance_record_of_nested hstep] at hs
        rw [advance_record_of_nested hmore, hs]
      | terminal field =>
        rw [advance_record_of_terminal hstep] at hs
        rw [advance_record_of_terminal hmore, hs]

/-! ## Whole walks -/

theorem foldlM_advance (h : registry.Extends more) :
    ∀ {steps : List Step} {endpoint last : Endpoint},
      steps.foldlM registry.advance endpoint = .ok last →
        steps.foldlM more.advance endpoint = .ok last
  | [], _, _, hwalk => hwalk
  | s :: rest, endpoint, last, hwalk => by
    obtain ⟨next, hs, hrest⟩ := foldlM_advance_cons_eq_ok hwalk
    rw [foldlM_advance_cons_of_ok (h.advance hs)]
    exact h.foldlM_advance hrest

/-- A walk that succeeds crosses the same lists. -/
theorem crosses (h : registry.Extends more) : ∀ {steps : List Step} {endpoint last : Endpoint},
    steps.foldlM registry.advance endpoint = .ok last →
      more.crosses endpoint steps = registry.crosses endpoint steps
  | [], _, _, _ => rfl
  | s :: rest, .field owner field, _, _ => rfl
  | s :: rest, .record schema, last, hwalk => by
    cases hs : registry.step schema s with
    | error e =>
      rw [foldlM_advance_cons_of_error (advance_record_of_error hs)] at hwalk
      exact absurd hwalk (by simp)
    | ok landing =>
      cases landing with
      | nested field target =>
        rw [foldlM_advance_cons_of_ok (advance_record_of_nested hs)] at hwalk
        simp only [Registry.crosses, hs, h.step hs, h.crosses hwalk]
      | terminal field =>
        rw [foldlM_advance_cons_of_ok (advance_record_of_terminal hs)] at hwalk
        simp only [Registry.crosses, hs, h.step hs, h.crosses hwalk]

/-- Steps that can be walked are completed alike. -/
theorem completeSteps (h : registry.Extends more) :
    ∀ {steps : List Step} {schema : Schema} {last : Endpoint} (valid : List Step),
      steps.foldlM registry.advance (.record schema) = .ok last →
        more.completeSteps (some schema) valid steps =
          registry.completeSteps (some schema) valid steps
  | [], _, _, _, _ => rfl
  | s :: rest, schema, last, valid, hwalk => by
    cases hs : registry.step schema s with
    | error e =>
      rw [foldlM_advance_cons_of_error (advance_record_of_error hs)] at hwalk
      exact absurd hwalk (by simp)
    | ok landing =>
      cases landing with
      | nested field target =>
        rw [foldlM_advance_cons_of_ok (advance_record_of_nested hs)] at hwalk
        simp only [Registry.completeSteps, hs, h.step hs, h.completeSteps _ hwalk]
      | terminal field =>
        rw [completeSteps_cons_of_terminal hs, completeSteps_cons_of_terminal (h.step hs)]

/-! ## Tags and completions -/

theorem resolveTag (h : registry.Extends more) {path : Path} {r : Resolution}
    (hresolve : registry.resolveTag path = .ok r) : more.resolveTag path = .ok r := by
  obtain ⟨hindex, hroot, hsteps, hwalk, hcrosses⟩ := resolveTag_eq_ok_iff.mp hresolve
  refine resolveTag_eq_ok_iff.mpr ⟨hindex, h _ _ hroot, hsteps, ?_, ?_⟩
  · exact h.foldlM_advance hwalk
  · rw [h.crosses hwalk, hcrosses]

/-- A valid text is completed alike. -/
theorem complete (h : registry.Extends more) {filter : RootFilter} {fragment : List Char}
    (hvalid : (registry.complete filter fragment).status = .valid) :
    more.complete filter fragment = registry.complete filter fragment := by
  obtain ⟨first, rest, r, hsteps, hallows, hr, -, -⟩ :=
    (status_complete_iff filter fragment).mp hvalid
  obtain ⟨hindex, hroot, hbelow, hwalk, -⟩ := accepts_cons_iff.mp hr
  rw [hbelow] at hwalk
  rw [complete_of_opens hsteps hindex hroot hallows,
    complete_of_opens hsteps hindex (h _ _ hroot) hallows, h.completeSteps _ hwalk]

/-- A tag that resolves is expanded alike. -/
theorem screen (h : registry.Extends more) {path : Path} {r : Resolution}
    (hresolve : registry.resolveTag path = .ok r) :
    Session.screen more path = Session.screen registry path := by
  rw [Session.screen_of_resolveTag hresolve, Session.screen_of_resolveTag (h.resolveTag hresolve)]

end Extends

/-- **Registering more schemas never changes what resolves.**  A tag that resolves goes on resolving
in the same way and is expanded alike, and a text that is valid goes on being valid, with the same
options and the same valid part. -/
theorem resolves_of_grows (h : registry.Grows more) :
    (∀ path r, registry.resolveTag path = .ok r →
      more.resolveTag path = .ok r ∧ Session.screen more path = Session.screen registry path) ∧
    ∀ filter fragment, (registry.complete filter fragment).status = .valid →
      more.complete filter fragment = registry.complete filter fragment :=
  ⟨fun _ _ hresolve => ⟨h.extends.resolveTag hresolve, h.extends.screen hresolve⟩,
    fun _ _ hvalid => h.extends.complete hvalid⟩

/-! ## A growing pound -/

/-- Dogs are looked up by their name. -/
def pound : Registry := ⟨[⟨0, "User", [⟨"dogs", .many (.named "dog")⟩], none⟩, dogSchema]⟩

/-- The pound, with another dog for good and another user for a while. -/
def grownPound : Registry :=
  ((pound.register ⟨3, "dog", [⟨"name", .many .self⟩], none⟩).scope [⟨4, "USER", [], none⟩]).2

/-- What the name of a user's first dog resolves to. -/
def firstName : Resolution :=
  ⟨⟨0, "User", [⟨"dogs", .many (.named "dog")⟩], none⟩, [⟨"dogs", some 0⟩, ⟨"name", none⟩],
    .field dogSchema ⟨"name", .scalar⟩, false⟩

/-- The names of a user's dogs are found in the first two schemas, not in the ones that came later
under the same names. -/
theorem resolves_of_grows_pound : pound.Grows grownPound ∧ grownPound.size = 4 ∧
    grownPound.resolveTag ⟨⟨"user", none⟩, [⟨"dogs", some 0⟩, ⟨"name", none⟩]⟩ = .ok firstName ∧
    (grownPound.complete .all "user.dogs:1.name".toList).status = .valid := by
  have hgrows : pound.Grows grownPound :=
    (Relation.ReflTransGen.single (Enrols.register _)).tail (Enrols.scope _)
  have hresolve : pound.resolveTag ⟨⟨"user", none⟩, [⟨"dogs", some 0⟩, ⟨"name", none⟩]⟩ =
      .ok firstName := by
    decide +kernel
  have hvalid : (pound.complete .all "user.dogs:1.name".toList).status = .valid := by
    refine (status_complete_iff .all _).mpr ⟨⟨"user", none⟩, [⟨"dogs", some 0⟩, ⟨"name", none⟩],
      firstName, ?_, ?_, ⟨_, rfl, hresolve⟩, ?_, rfl⟩ <;> decide +kernel
  obtain ⟨htags, hfragments⟩ := resolves_of_grows hgrows
  refine ⟨hgrows, by decide +kernel, (htags _ _ hresolve).1, ?_⟩
  rw [hfragments _ _ hvalid, hvalid]

end Registry

end TagTemplates
