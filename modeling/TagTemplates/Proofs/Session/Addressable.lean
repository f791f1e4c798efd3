import TagTemplates.Proofs.Registry.Canonical
import TagTemplates.Proofs.Schema.Calls
import TagTemplates.Session

/-!
# Fields are reached by their tags

A schema is built exactly when it is addressable, and then the tag `schema.field` leads to each of
its fields, in every spelling of the two names.  A field that is named like its schema is reached as
well: the first step below a root is only skipped when the root has no such field.

* `read_pair`: a tag of two names is read as these names, folded.
* `Registry.resolveTag_pair`: a tag that names a root and one of its fields takes the one step.
* `Registry.advance_of_isTerminal`, `Registry.advance_of_target` and
  `Registry.advance_of_target_error`: where this step leads.
* `build_iff_addressable`: when calls lead to a schema, and where the tags of its fields lead.
-/

namespace TagTemplates

variable {schema target : Schema} {field : Field} {s : Step} {root below : String}

/-- A tag of two names is read as these names, folded. -/
theorem read_pair (hroot : Run Text.isNameChar root.toList)
    (hbelow : Run Text.isNameChar below.toList) :
    Path.read (root ++ "." ++ below).toList = .ok ⟨Step.make root, [Step.make below]⟩ := by
  have hspelled : ∀ name : String, Run Text.isNameChar name.toList →
      (Step.make name).SpelledBy name.toList := by
    intro name hname
    have hstep := Step.SpelledBy.intro hname SpellsIndex.absent
    rwa [String.ofList_toList, List.append_nil] at hstep
  have hpath := SpellsSteps.dot (hspelled root hroot) blanks_nil blanks_nil
    (SpellsSteps.last (hspelled below hbelow))
  refine read_eq_ok_iff.mpr (readPath_eq_ok_iff.mpr ⟨[], _, [], ?_, blanks_nil, blanks_nil, hpath⟩)
  simp

namespace Registry

variable {registry : Registry} {e : ResolveError}

/-! ## One step -/

/-- A single step crosses no list: nothing stands behind it. -/
theorem crosses_singleton (endpoint : Endpoint) (s : Step) :
    registry.crosses endpoint [s] = false := by
  cases endpoint with
  | field owner field => rfl
  | record schema =>
    rw [crosses]
    cases registry.step schema s with
    | error e => rfl
    | ok landing =>
      cases landing with
      | nested field target => simp [crosses]
      | terminal field => rfl

/-- A step to a plain or template field ends there. -/
theorem advance_of_isTerminal (hfield : schema.field? s.name = some field) (hindex : s.index = none)
    (hkind : field.kind.isTerminal = true) :
    registry.advance (.record schema) s = .ok (.field schema field) := by
  refine advance_record_of_terminal ?_
  rw [step]
  simp only [hfield, hindex]
  rw [if_neg (by simp), if_pos hkind]

/-- A step to a nested field leads to the schema behind it. -/
theorem advance_of_target (hfield : schema.field? s.name = some field) (hindex : s.index = none)
    (hkind : field.kind.isTerminal = false) (htarget : registry.target schema field = .ok target) :
    registry.advance (.record schema) s = .ok (.record target) := by
  have hstep : registry.step schema s = .ok (.nested field target) := by
    rw [step]
    simp only [hfield, hindex, htarget]
    rw [if_neg (by simp), if_neg (by simp [hkind])]
  exact advance_record_of_nested hstep

/-- A step to a nested field fails when there is no schema behind it. -/
theorem advance_of_target_error (hfield : schema.field? s.name = some field)
    (hindex : s.index = none) (hkind : field.kind.isTerminal = false)
    (htarget : registry.target schema field = .error e) :
    registry.advance (.record schema) s = .error e := by
  refine advance_record_of_error ?_
  rw [step]
  simp only [hfield, hindex, htarget]
  rw [if_neg (by simp), if_neg (by simp [hkind])]

/-- **A tag that names a root and one of its fields takes the one step**, and skips nothing. -/
theorem resolveTag_pair (hlookup : registry.lookup? root = some schema)
    (hfield : schema.field? below = some field) :
    registry.resolveTag ⟨Step.make root, [Step.make below]⟩ =
      (registry.advance (.record schema) (Step.make below)).map
        fun last => ⟨schema, [Step.make below], last, false⟩ := by
  have hroot : registry.lookup? (Step.make root).name = some schema :=
    (lookup?_congr (Text.fold_fold root)).trans hlookup
  have hfound : schema.field? (Step.make below).name = some field :=
    (Schema.field?_congr (Text.fold_fold below)).trans hfield
  have hsteps : stepsBelow schema [Step.make below] = [Step.make below] :=
    stepsBelow_eq_self (skipsRootAlias_of_isSome (by rw [hfound]; rfl) [])
  rw [resolveTag, if_neg (by simp [Step.make]), resolve_eq hroot, hsteps, crosses_singleton]
  cases hadvance : registry.advance (.record schema) (Step.make below) with
  | error e => rw [foldlM_advance_cons_of_error hadvance]
  | ok last => rw [foldlM_advance_cons_of_ok hadvance]; rfl

end Registry

namespace Session

variable {session : Session}

/-- A tag of two names, each spelled in any case, takes the step from the schema to the field. -/
theorem resolvePath_pair (hname : isTagName schema.name = true)
    (hfieldname : isTagName field.name = true) (hnodup : schema.fieldNames.Nodup)
    (hlookup : session.registry.lookup? schema.name = some schema) (hfield : field ∈ schema.fields)
    (hroot : Text.fold root = Text.fold schema.name)
    (hbelow : Text.fold below = Text.fold field.name) :
    session.resolvePath (root ++ "." ++ below).toList =
      ((session.registry.advance (.record schema) (Step.make field.name)).map
        fun last => ⟨schema, [Step.make field.name], last, false⟩).mapError .resolve := by
  have hfound := Schema.field?_eq_some_of_mem hnodup hfield hbelow
  have hstep : Step.make below = Step.make field.name := by rw [Step.make, Step.make, hbelow]
  rw [resolvePath, read_pair (run_of_fold_eq hname hroot) (run_of_fold_eq hfieldname hbelow)]
  simp only
  rw [Registry.resolveTag_pair ((Registry.lookup?_congr hroot).trans hlookup) hfound, hstep]

end Session

/-- **Schemas are built when they are addressable, and then every field is reached by its tag.**

Calls lead to a schema exactly when its name and the names of its fields are made of ASCII letters,
digits and underscores, no two of its fields have one name up to case, and the display that is
designated last is declared.  The schema has the fields in the order of their declaration, under
folded names that are all different, and its display is one of these.

Where the schema is the first of its name, the tag of each of its fields, in any case, ends on the
field itself, or on the schema behind it, or fails because no schema of the name is registered. -/
theorem build_iff_addressable (token : Nat) (name : String) (calls : List Draft.Call) :
    ((∃ schema, (Draft.after name calls).build token = .ok schema) ↔
      (name.toList ≠ [] ∧ ∀ c ∈ name.toList, c.isAlphanum = true ∨ c = '_') ∧
      (∀ field ∈ Draft.declared calls, field.name.toList ≠ [] ∧
        ∀ c ∈ field.name.toList, c.isAlphanum = true ∨ c = '_') ∧
      (Draft.declared calls).Pairwise
        (fun field other => Text.fold field.name ≠ Text.fold other.name) ∧
      ∀ display, Draft.designated? calls = some display →
        ∃ field ∈ Draft.declared calls, Text.fold field.name = Text.fold display) ∧
    ∀ schema, (Draft.after name calls).build token = .ok schema →
      schema.name = name ∧ schema.fields = Draft.declared calls ∧
      schema.fieldNames = (Draft.declared calls).map (fun field => Text.fold field.name) ∧
      schema.fieldNames.Nodup ∧ (∀ key, schema.display = some key → key ∈ schema.fieldNames) ∧
      ∀ session : Session, session.registry.lookup? name = some schema →
        ∀ field ∈ schema.fields, ∀ root below : String, Text.fold root = Text.fold name →
          Text.fold below = Text.fold field.name →
          ((field.kind = .scalar ∨ ∃ text tags, field.kind = .template text tags) →
            session.resolvePath (root ++ "." ++ below).toList =
              .ok ⟨schema, [Step.make field.name], .field schema field, false⟩) ∧
          ∀ reference, (field.kind = .one reference ∨ field.kind = .many reference) →
            (∀ target, reference = .direct target ∨ (reference = .self ∧ target = schema) ∨
                (∃ other, reference = .named other ∧
                  session.registry.lookup? other = some target) →
              session.resolvePath (root ++ "." ++ below).toList =
                .ok ⟨schema, [Step.make field.name], .record target, false⟩) ∧
            ∀ other, reference = .named other → session.registry.lookup? other = none →
              session.resolvePath (root ++ "." ++ below).toList =
                .error (.resolve (.unresolvedReference field.name other)) := by
  refine ⟨?_, fun schema hbuild => ?_⟩
  · rw [Draft.exists_schema_iff, isTagName_iff]
    simp only [isTagName_iff]
  · have hbuilt : schema.Built := ⟨token, _, hbuild⟩
    obtain ⟨rfl, hfields, hnames, hnodup, hdisplay⟩ := Draft.build_after_eq_ok hbuild
    refine ⟨rfl, hfields, hnames, hnodup, hdisplay, ?_⟩
    intro session hlookup field hfield root below hroot hbelow
    have hpath := Session.resolvePath_pair hbuilt.isTagName (hbuilt.isTagName_field field hfield)
      hnodup hlookup hfield hroot hbelow
    have hfound : schema.field? (Step.make field.name).name = some field :=
      Schema.field?_eq_some_of_mem hnodup hfield (Text.fold_fold field.name)
    rw [hpath]
    refine ⟨fun hkind => ?_, fun reference hkind => ?_⟩
    · have hterminal : field.kind.isTerminal = true := by
        rcases hkind with hkind | ⟨text, tags, hkind⟩ <;> rw [hkind] <;> rfl
      rw [Registry.advance_of_isTerminal hfound rfl hterminal]
      rfl
    · have hterminal : field.kind.isTerminal = false := by
        rcases hkind with hkind | hkind <;> rw [hkind] <;> rfl
      have htarget : field.kind.target? = some reference := by
        rcases hkind with hkind | hkind <;> rw [hkind] <;> rfl
      refine ⟨fun target hreference => ?_, fun other hother hnone => ?_⟩
      · have hok : session.registry.target schema field = .ok target := by
          rw [Registry.target, htarget]
          rcases hreference with rfl | ⟨rfl, rfl⟩ | ⟨other, rfl, hother⟩
          · rfl
          · rfl
          · simp only [hother]
        rw [Registry.advance_of_target hfound rfl hterminal hok]
        rfl
      · have herror : session.registry.target schema field =
            .error (.unresolvedReference field.name other) := by
          rw [Registry.target, htarget, hother]
          simp only [hnone]
        rw [Registry.advance_of_target_error hfound rfl hterminal herror]
        rfl

/-- The calls for a dog with a field named like itself, and cats that are not registered. -/
def dogCalls : List Draft.Call := [.scalar "name", .one "dog" .self, .many "cats" (.named "Cat")]

/-- What is built from these calls. -/
def calledDog : Schema :=
  ⟨0, "Dog", [⟨"name", .scalar⟩, ⟨"dog", .one .self⟩, ⟨"cats", .many (.named "Cat")⟩], none⟩

/-- The fields of a dog are reached by their tags, and its cats are not. -/
theorem build_iff_addressable_of_dog :
    (Draft.after "Dog" dogCalls).build 0 = .ok calledDog ∧
    (Session.make [calledDog]).resolvePath ("DOG" ++ "." ++ "Name").toList =
      .ok ⟨calledDog, [Step.make "name"], .field calledDog ⟨"name", .scalar⟩, false⟩ ∧
    (Session.make [calledDog]).resolvePath ("dog" ++ "." ++ "DOG").toList =
      .ok ⟨calledDog, [Step.make "dog"], .record calledDog, false⟩ ∧
    (Session.make [calledDog]).resolvePath ("Dog" ++ "." ++ "cats").toList =
      .error (.resolve (.unresolvedReference "cats" "Cat")) := by
  have hbuild : (Draft.after "Dog" dogCalls).build 0 = .ok calledDog := by decide +kernel
  have hlookup : (Session.make [calledDog]).registry.lookup? "Dog" = some calledDog := by
    decide +kernel
  obtain ⟨-, -, -, -, -, hreach⟩ := (build_iff_addressable 0 "Dog" dogCalls).2 calledDog hbuild
  have hname := hreach _ hlookup ⟨"name", .scalar⟩ (by simp [calledDog]) "DOG" "Name" (by decide)
    (by decide)
  have hdog := hreach _ hlookup ⟨"dog", .one .self⟩ (by simp [calledDog]) "dog" "DOG" (by decide)
    (by decide)
  have hcats := hreach _ hlookup ⟨"cats", .many (.named "Cat")⟩ (by simp [calledDog]) "Dog" "cats"
    (by decide) rfl
  exact ⟨hbuild, hname.1 (Or.inl rfl),
    (hdog.2 .self (Or.inl rfl)).1 calledDog (Or.inr (Or.inl ⟨rfl, rfl⟩)),
    (hcats.2 (.named "Cat") (Or.inr rfl)).2 "Cat" rfl (by decide +kernel)⟩

end TagTemplates
