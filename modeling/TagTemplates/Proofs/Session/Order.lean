import Mathlib.Data.List.Perm.Basic
import TagTemplates.Proofs.Dump.Faithful
import TagTemplates.Proofs.Dump.Walk
import TagTemplates.Proofs.Registry.Changes
import TagTemplates.Session

/-!
# The order of registrations

A registry keeps its schemas in the order in which they came, but all that is ever asked of it is
which schema a name means, and which names there are.  Where no name is taken twice, neither depends
on the order.

* `Registry.SameLookups`: every name means the same schema in both registries.
* `SameLookups.walk`, `SameLookups.completeSteps`: resolving and completing ask for names only.
* `SameLookups.dump`: so does dumping, at any depth of the data.
* `lookup?_eq_some_iff`, `sameLookups_of_perm`, `names_of_perm`: schemas with different names.
* `Session.same_of_perm`: everything that a session answers.
-/

namespace TagTemplates

namespace Registry

/-- Every name means the same schema in both registries, or none. -/
def SameLookups (registry other : Registry) : Prop :=
  ∀ name, registry.lookup? name = other.lookup? name

variable {registry other : Registry}

/-! ## Resolving -/

namespace SameLookups

theorem target (h : registry.SameLookups other) (owner : Schema) (field : Field) :
    registry.target owner field = other.target owner field := by
  rw [Registry.target, Registry.target]
  cases field.kind.target? with
  | none => rfl
  | some reference =>
    cases reference with
    | direct schema => rfl
    | self => rfl
    | named name => simp only [h name]

theorem step (h : registry.SameLookups other) (current : Schema) (s : Step) :
    registry.step current s = other.step current s := by
  rw [Registry.step, Registry.step]
  cases current.field? s.name with
  | none => rfl
  | some field => simp only [h.target current field]

/-- **A walk asks for names only.** -/
theorem walk (h : registry.SameLookups other) : ∀ (steps : List Step) (endpoint : Endpoint)
    (crossed : Bool), registry.walk endpoint crossed steps = other.walk endpoint crossed steps
  | [], _, _ => rfl
  | _ :: _, .field _ _, _ => rfl
  | s :: rest, .record schema, crossed => by
    rw [Registry.walk, Registry.walk, h.step schema s]
    cases other.step schema s with
    | error e => rfl
    | ok landing =>
      cases landing with
      | nested field target => exact h.walk rest (.record target) _
      | terminal field => exact h.walk rest (.field schema field) crossed

theorem resolve (h : registry.SameLookups other) (name : String) (steps : List Step) :
    registry.resolve name steps = other.resolve name steps := by
  have hroot : registry.root name = other.root name := by rw [Registry.root, Registry.root, h name]
  rw [Registry.resolve, Registry.resolve, hroot]
  cases other.root name with
  | error e => rfl
  | ok root => simp only [h.walk (stepsBelow root steps) (.record root) false]

theorem resolveTag (h : registry.SameLookups other) (path : Path) :
    registry.resolveTag path = other.resolveTag path := by
  rw [Registry.resolveTag, Registry.resolveTag, h.resolve]

/-- **The steps below a root are completed by names only.** -/
theorem completeSteps (h : registry.SameLookups other) :
    ∀ (steps : List Step) (current : Option Schema) (valid : List Step),
      registry.completeSteps current valid steps = other.completeSteps current valid steps
  | [], some _, _ => rfl
  | [], none, _ => rfl
  | _ :: _, none, _ => rfl
  | s :: rest, some schema, valid => by
    rw [Registry.completeSteps, Registry.completeSteps, h.step schema s]
    cases other.step schema s with
    | error e => cases e <;> rfl
    | ok landing =>
      cases landing with
      | nested field target =>
        simp only [h.completeSteps rest (some target) (valid ++ [s])]
      | terminal field => exact h.completeSteps rest none (valid ++ [s])

/-- Completion asks for the names that may be roots besides. -/
theorem complete (h : registry.SameLookups other) (hnames : registry.names = other.names)
    (filter : RootFilter) (fragment : List Char) :
    registry.complete filter fragment = other.complete filter fragment := by
  have hroots : registry.rootNames filter = other.rootNames filter := by
    rw [rootNames, rootNames, hnames]
  have hpath : ∀ first rest, registry.completePath filter first rest =
      other.completePath filter first rest := by
    intro first rest
    rw [completePath, completePath, hroots, h first.name]
    simp only [h.completeSteps]
  rw [Registry.complete, Registry.complete, hroots]
  simp only [hpath]

/-! ## Dumping -/

variable [Liquid.Library] {displayKey : String}

/-- What a nested field holds is dumped alike when every smaller value is. -/
theorem dumpBehind {v : Json}
    (ih : ∀ w : Json, sizeOf w ≤ sizeOf v → ∀ schema,
      registry.dump displayKey schema w = other.dump displayKey schema w)
    (field : Field) (target : Schema) :
    registry.dumpBehind displayKey field target v = other.dumpBehind displayKey field target v := by
  rw [Registry.dumpBehind, Registry.dumpBehind, ih v (Nat.le_refl _)]
  cases v with
  | array items =>
    have hitems : items.mapM (registry.dump displayKey target) =
        items.mapM (other.dump displayKey target) :=
      mapM_congr fun item hitem => ih item (Nat.le_of_lt (Json.sizeOf_item_lt hitem)) target
    rw [dumpItems, dumpItems, hitems]
  | _ => rfl

/-- A field is dumped alike when what the object holds for it is. -/
theorem dumpField (h : registry.SameLookups other) {schema : Schema}
    {entries : List (String × Json)}
    (ih : ∀ w : Json, sizeOf w < sizeOf (Json.object entries) → ∀ schema,
      registry.dump displayKey schema w = other.dump displayKey schema w) (field : Field) :
    registry.dumpField displayKey schema entries field =
      other.dumpField displayKey schema entries field := by
  by_cases hterminal : field.kind.isTerminal = true
  · rcases FieldKind.eq_terminal hterminal with hkind | ⟨text, tags, hkind⟩
    · rw [dumpField_scalar hkind, dumpField_scalar hkind]
    · rw [dumpField_template hkind, dumpField_template hkind]
  · rw [Bool.not_eq_true] at hterminal
    have htargets := h.target schema field
    cases htarget : other.target schema field with
    | error e =>
      rw [dumpField_raw hterminal (htargets.trans htarget), dumpField_raw hterminal htarget]
    | ok target =>
      rw [dumpField_nested hterminal (htargets.trans htarget), dumpField_nested hterminal htarget]
      congr 1
      simp only [Json.entryOf]
      cases hfound : Json.lookupName field.name entries with
      | none => rw [Option.getD_none, dumpBehind_null, dumpBehind_null]
      | some v =>
        refine dumpBehind (fun w hw => ih w ?_) field target
        exact Nat.lt_of_le_of_lt hw (Json.sizeOf_lookupName_lt hfound)

/-- **A dump asks for names only.**  By induction on the size of the data. -/
theorem dump (h : registry.SameLookups other) (schema : Schema) (v : Json) :
    registry.dump displayKey schema v = other.dump displayKey schema v := by
  induction hn : sizeOf v using Nat.strongRecOn generalizing v schema with
  | _ n ih =>
    cases v with
    | object entries =>
      subst hn
      have hfields : schema.fields.mapM (registry.dumpField displayKey schema entries) =
          schema.fields.mapM (other.dumpField displayKey schema entries) :=
        mapM_congr fun field _ => h.dumpField (fun w hw schema => ih _ hw schema w rfl) field
      rw [Registry.dump, Registry.dump, hfields]
    | _ => rw [dump_of_ne_object rfl, dump_of_ne_object rfl]

end SameLookups

/-! ## Schemas with different names -/

variable {schemas others : List Schema}

/-- Where no name is taken twice, a name means whatever schema has it. -/
theorem lookup?_eq_some_iff (hnames : (registry.schemas.map Schema.key).Nodup) {name : String}
    {schema : Schema} :
    registry.lookup? name = some schema ↔
      schema ∈ registry.schemas ∧ schema.key = Text.fold name := by
  refine ⟨mem_of_lookup?_eq_some, ?_⟩
  rintro ⟨hmem, hkey⟩
  cases hfound : registry.lookup? name with
  | none =>
    rw [lookup?, List.find?_eq_none] at hfound
    exact absurd (Text.sameName_iff.mpr hkey) (hfound schema hmem)
  | some found =>
    obtain ⟨hfoundmem, hfoundkey⟩ := mem_of_lookup?_eq_some hfound
    rw [List.inj_on_of_nodup_map hnames hfoundmem hmem (hfoundkey.trans hkey.symm)]

/-- **Where no name is taken twice, the order of the schemas does not matter to a look-up.** -/
theorem sameLookups_of_perm (hnames : (schemas.map Schema.key).Nodup)
    (hperm : schemas.Perm others) : (⟨schemas⟩ : Registry).SameLookups ⟨others⟩ := by
  have hothers : (others.map Schema.key).Nodup := (hperm.map Schema.key).nodup_iff.mp hnames
  intro name
  refine Option.ext fun schema => ?_
  rw [lookup?_eq_some_iff hnames, lookup?_eq_some_iff hothers]
  exact and_congr_left fun _ => hperm.mem_iff

/-- Sorting forgets the order. -/
theorem sortedOnce_of_perm {names more : List String} (h : names.Perm more) :
    Text.sortedOnce names = Text.sortedOnce more := by
  have hsort : names.mergeSort (fun a b => decide (a ≤ b)) =
      more.mergeSort fun a b => decide (a ≤ b) := by
    refine List.Perm.eq_of_pairwise (fun a b _ _ hab hba => ?_) (Text.pairwise_mergeSort names)
      (Text.pairwise_mergeSort more) ?_
    · exact String.le_antisymm (of_decide_eq_true hab) (of_decide_eq_true hba)
    · exact (List.mergeSort_perm names _).trans (h.trans (List.mergeSort_perm more _).symm)
  rw [Text.sortedOnce, Text.sortedOnce, hsort]

theorem names_of_perm (hperm : schemas.Perm others) :
    (⟨schemas⟩ : Registry).names = (⟨others⟩ : Registry).names :=
  sortedOnce_of_perm (hperm.map Schema.key)

/-- Schemas with different names are all registered. -/
theorem registerAll_empty (hnames : (schemas.map Schema.key).Nodup) :
    empty.registerAll schemas = ⟨schemas⟩ :=
  registerAll_of_nodup hnames.of_map fun _ _ => List.not_mem_nil

end Registry

/-! ## Sessions -/

namespace Session

variable {registry other : Registry}

theorem screen_of_sameLookups (h : registry.SameLookups other) (path : Path) :
    screen registry path = screen other path := by
  rw [screen, screen, h path.root.name, h.resolveTag path]

theorem dumpRoots_of_sameLookups [Liquid.Library] (h : registry.SameLookups other)
    {displayKey : String} : ∀ entries : List (String × Json),
      dumpRoots registry displayKey entries = dumpRoots other displayKey entries
  | [] => rfl
  | (name, v) :: rest => by
    rw [dumpRoots, dumpRoots, h name]
    cases other.lookup? name with
    | none => exact dumpRoots_of_sameLookups h rest
    | some schema => simp only [h.dump schema v, dumpRoots_of_sameLookups h rest]

variable {displayKey : String} {fallback : Fallback}

theorem expandWith_of_sameLookups (h : registry.SameLookups other) (text : Fallback)
    (template : List Char) :
    (⟨registry, displayKey, fallback⟩ : Session).expandWith text template =
      (⟨other, displayKey, fallback⟩ : Session).expandWith text template := by
  have hscreen : screen registry = screen other := funext (screen_of_sameLookups h)
  rw [expandWith, expandWith, hscreen]

theorem render_of_sameLookups [Liquid.Library] (h : registry.SameLookups other) (data : Json)
    (template : List Char) (options : RenderOptions) :
    (⟨registry, displayKey, fallback⟩ : Session).render data template options =
      (⟨other, displayKey, fallback⟩ : Session).render data template options := by
  cases data with
  | object entries =>
    have hcontext : (⟨registry, displayKey, fallback⟩ : Session).context entries =
        (⟨other, displayKey, fallback⟩ : Session).context entries := by
      rw [context, context, dumpRoots_of_sameLookups h]
    simp only [render, expandWith_of_sameLookups h, hcontext]
  | _ => rfl

/-- **The order of registrations does not matter.**  Schemas with different names may be registered
in any order: paths resolve alike, texts are completed alike, templates are expanded alike and
rendered alike, whatever the data. -/
theorem same_of_perm [Liquid.Library] {schemas others : List Schema}
    (hnames : (schemas.map Schema.key).Nodup) (hperm : schemas.Perm others)
    (displayKey : String) (fallback : Fallback) :
    let session : Session := ⟨Registry.empty.registerAll schemas, displayKey, fallback⟩
    let reordered : Session := ⟨Registry.empty.registerAll others, displayKey, fallback⟩
    (∀ path, session.resolvePath path = reordered.resolvePath path) ∧
    (∀ filter fragment,
      session.registry.complete filter fragment = reordered.registry.complete filter fragment) ∧
    (∀ text template, session.expandWith text template = reordered.expandWith text template) ∧
    ∀ data template options,
      session.render data template options = reordered.render data template options := by
  have hothers : (others.map Schema.key).Nodup := (hperm.map Schema.key).nodup_iff.mp hnames
  have hlookups := Registry.sameLookups_of_perm hnames hperm
  rw [Registry.registerAll_empty hnames, Registry.registerAll_empty hothers]
  refine ⟨fun path => ?_, hlookups.complete (Registry.names_of_perm hperm),
    expandWith_of_sameLookups hlookups, render_of_sameLookups hlookups⟩
  rw [resolvePath, resolvePath]
  simp only [hlookups.resolveTag]

/-- Users and dogs may come in either order, though a user's dogs are looked up by their name. -/
theorem same_of_perm_of_dogs :
    let user : Schema := ⟨0, "User", [⟨"dog", .one (.named "DOG")⟩], none⟩
    let dog : Schema := ⟨1, "Dog", [⟨"name", .scalar⟩], none⟩
    let session := Session.make [user, dog]
    let reordered := Session.make [dog, user]
    session.registry ≠ reordered.registry ∧
      (∀ fragment, session.complete fragment = reordered.complete fragment) ∧
      ∀ data template options,
        session.render data template options = reordered.render data template options := by
  intro user dog session reordered
  have hnames : ([user, dog].map Schema.key).Nodup := by decide +kernel
  obtain ⟨-, hcomplete, -, hrender⟩ := same_of_perm hnames (List.Perm.swap dog user [])
    (Text.fold defaultDisplayField) default
  exact ⟨by decide +kernel, hcomplete .all, hrender⟩

end Session

end TagTemplates
