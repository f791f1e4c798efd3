import Mathlib.Logic.Relation
import TagTemplates.Proofs.Dump.Faithful
import TagTemplates.Proofs.Session.Rendering

/-!
# Undeclared data

What the schemas do not declare never reaches a render.  Data are read in two places only: the roots
are looked up by the names of the data, and an object that is dumped through a schema is asked for
the names of the fields that are no templates.  So an entry under any other key can be put in, taken
out or replaced, at the roots or inside whatever is dumped, and nothing shows it.

* `DifferBy`: entries that differ by one entry.
* `Unread`, `UnreadRoots`: one change that a dump, or a render, does not read.
* `lookupName_of_differBy`, `lookupName_replace`: what is found for a name after a change.
* `dump_of_unread`, `dumpRoots_of_unread`: one change does not matter.
* `render_of_unread`: any number of changes do not.
-/

namespace TagTemplates

/-! ## Changes -/

/-- Entries that differ by one entry, with a key of a certain kind: it is put in or taken out, or it
has another value. -/
inductive DifferBy (p : String → Prop) : List (String × Json) → List (String × Json) → Prop where
  | added {key : String} (before : List (String × Json)) (value : Json)
      (after : List (String × Json)) : p key →
      DifferBy p (before ++ after) (before ++ (key, value) :: after)
  | removed {key : String} (before : List (String × Json)) (value : Json)
      (after : List (String × Json)) : p key →
      DifferBy p (before ++ (key, value) :: after) (before ++ after)
  | changed {key : String} (before : List (String × Json)) (value other : Json)
      (after : List (String × Json)) : p key →
      DifferBy p (before ++ (key, value) :: after) (before ++ (key, other) :: after)

/-- Whether a dump through a schema asks for a key: it is the name of a field, up to case, and the
field is no template. -/
def Schema.asksFor (schema : Schema) (key : String) : Bool :=
  schema.fields.any fun field => !field.kind.isTemplate && Text.sameName key field.name

namespace Registry

/-- Data that differ by one entry that a dump through the schema does not ask for: of the object
itself, or inside what a nested field holds, or inside an item of a list. -/
inductive Unread (registry : Registry) : Schema → Json → Json → Prop where
  | entry {schema : Schema} {entries entries' : List (String × Json)} :
      DifferBy (fun key => schema.asksFor key = false) entries entries' →
      registry.Unread schema (.object entries) (.object entries')
  | nested {schema target : Schema} {field : Field} {key : String} {v w : Json}
      (before after : List (String × Json)) : field ∈ schema.fields →
      Text.sameName key field.name = true → field.kind.isMany = false →
      registry.target schema field = .ok target → registry.Unread target v w →
      registry.Unread schema (.object (before ++ (key, v) :: after))
        (.object (before ++ (key, w) :: after))
  | item {schema target : Schema} {field : Field} {key : String} {v w : Json}
      (before after : List (String × Json)) (items more : List Json) : field ∈ schema.fields →
      Text.sameName key field.name = true → field.kind.isMany = true →
      registry.target schema field = .ok target → registry.Unread target v w →
      registry.Unread schema (.object (before ++ (key, .array (items ++ v :: more)) :: after))
        (.object (before ++ (key, .array (items ++ w :: more)) :: after))

/-- Data of a render that differ by one entry that is not read: no schema is registered under its
key, or it stands inside the data of a root and a dump does not ask for it. -/
inductive UnreadRoots (registry : Registry) :
    List (String × Json) → List (String × Json) → Prop where
  | entry {entries entries' : List (String × Json)} :
      DifferBy (fun key => registry.lookup? key = none) entries entries' →
      registry.UnreadRoots entries entries'
  | inside {schema : Schema} {key : String} {v w : Json} (before after : List (String × Json)) :
      registry.lookup? key = some schema → registry.Unread schema v w →
      registry.UnreadRoots (before ++ (key, v) :: after) (before ++ (key, w) :: after)

end Registry

/-! ## What is found for a name -/

section Entries

variable {name key : String} {v w : Json} {before after : List (String × Json)}

theorem find?_append_cons {α : Type} {q : α → Bool} {a : α} (h : q a = false)
    (before after : List α) : (before ++ a :: after).find? q = (before ++ after).find? q := by
  rw [List.find?_append, List.find?_append, List.find?_cons_of_neg (by simp [h])]

/-- An entry under another name is not found. -/
theorem lookupName_append_cons (h : Text.sameName key name = false) :
    Json.lookupName name (before ++ (key, v) :: after) =
      Json.lookupName name (before ++ after) := by
  have hexact : (key == name) = false := by
    rw [beq_eq_false_iff_ne]
    rintro rfl
    rw [Text.sameName_iff.mpr rfl] at h
    exact absurd h (by simp)
  simp only [Json.lookupName, Json.lookup]
  rw [find?_append_cons (by exact hexact), find?_append_cons (by exact h)]

/-- One entry under another name makes no difference. -/
theorem lookupName_of_differBy {p : String → Prop} {entries entries' : List (String × Json)}
    (h : DifferBy p entries entries') (hp : ∀ key, p key → Text.sameName key name = false) :
    Json.lookupName name entries = Json.lookupName name entries' := by
  cases h with
  | added before value after hkey => rw [lookupName_append_cons (hp _ hkey)]
  | removed before value after hkey => rw [lookupName_append_cons (hp _ hkey)]
  | changed before value other after hkey =>
    rw [lookupName_append_cons (hp _ hkey), lookupName_append_cons (hp _ hkey)]

/-- When the value of a key is replaced, either something else is found in both cases or this
value. -/
theorem find?_replace (q : String → Bool) (key : String) (v w : Json)
    (before after : List (String × Json)) :
    (before ++ (key, v) :: after).find? (fun e => q e.1) =
        (before ++ (key, w) :: after).find? (fun e => q e.1) ∨
      (q key = true ∧ (before ++ (key, v) :: after).find? (fun e => q e.1) = some (key, v) ∧
        (before ++ (key, w) :: after).find? (fun e => q e.1) = some (key, w)) := by
  by_cases hkey : q key = true
  · rw [List.find?_append, List.find?_append]
    cases before.find? (fun e => q e.1) with
    | none =>
      have hfound : ∀ x, List.find? (fun e : String × Json => q e.1) ((key, x) :: after) =
          some (key, x) := fun x => List.find?_cons_of_pos (by exact hkey)
      rw [hfound, hfound]
      exact Or.inr ⟨hkey, rfl, rfl⟩
    | some e => exact Or.inl rfl
  · rw [Bool.not_eq_true] at hkey
    rw [find?_append_cons (by exact hkey), find?_append_cons (by exact hkey)]
    exact Or.inl rfl

theorem lookupName_replace (name key : String) (v w : Json) (before after : List (String × Json)) :
    Json.lookupName name (before ++ (key, v) :: after) =
        Json.lookupName name (before ++ (key, w) :: after) ∨
      (Text.sameName key name = true ∧
        Json.lookupName name (before ++ (key, v) :: after) = some v ∧
        Json.lookupName name (before ++ (key, w) :: after) = some w) := by
  simp only [Json.lookupName, Json.lookup]
  rcases find?_replace (fun k => k == name) key v w before after with hsame | ⟨hkey, hv, hw⟩
  · rw [hsame]
    cases (before ++ (key, w) :: after).find? (fun e => e.1 == name) with
    | some e => exact Or.inl rfl
    | none =>
      rcases find?_replace (fun k => Text.sameName k name) key v w before after with
        hfolded | ⟨hname, hv, hw⟩
      · rw [hfolded]
        exact Or.inl rfl
      · rw [hv, hw]
        exact Or.inr ⟨hname, rfl, rfl⟩
  · rw [hv, hw]
    refine Or.inr ⟨?_, rfl, rfl⟩
    rw [beq_iff_eq.mp hkey]
    exact Text.sameName_iff.mpr rfl

end Entries

/-! ## Dumps -/

namespace Registry

variable {registry : Registry} {displayKey : String} {schema : Schema}
  {entries entries' : List (String × Json)}

theorem isTerminal_of_target_eq_ok {target : Schema} {field : Field}
    (h : registry.target schema field = .ok target) : field.kind.isTerminal = false := by
  rw [FieldKind.isTerminal]
  cases hkind : field.kind.target? with
  | none => simp [Registry.target, hkind] at h
  | some reference => rfl

variable [Liquid.Library]

/-- A field is dumped by what the object holds for its name, and by nothing else. -/
theorem dumpField_congr {field : Field}
    (h : (Json.object entries).entryOf field.name = (Json.object entries').entryOf field.name) :
    registry.dumpField displayKey schema entries field =
      registry.dumpField displayKey schema entries' field := by
  by_cases hterminal : field.kind.isTerminal = true
  · rcases FieldKind.eq_terminal hterminal with hkind | ⟨text, tags, hkind⟩
    · rw [dumpField_scalar hkind, dumpField_scalar hkind, h]
    · rw [dumpField_template hkind, dumpField_template hkind]
  · rw [Bool.not_eq_true] at hterminal
    cases htarget : registry.target schema field with
    | ok target => rw [dumpField_nested hterminal htarget, dumpField_nested hterminal htarget, h]
    | error e => rw [dumpField_raw hterminal htarget, dumpField_raw hterminal htarget, h]

/-- An object is dumped field by field. -/
theorem dump_object_congr (h : ∀ field ∈ schema.fields,
    registry.dumpField displayKey schema entries field =
      registry.dumpField displayKey schema entries' field) :
    registry.dump displayKey schema (.object entries) =
      registry.dump displayKey schema (.object entries') := by
  rw [dump, dump, mapM_congr h]

/-- The value of a key that names a nested field may be replaced by one that is dumped alike. -/
theorem dump_object_replace (hbuilt : schema.Built) {target : Schema} {field : Field} {key : String}
    {v w : Json} (before after : List (String × Json)) (hfield : field ∈ schema.fields)
    (hkey : Text.sameName key field.name = true)
    (htarget : registry.target schema field = .ok target)
    (h : registry.dumpBehind displayKey field target v =
      registry.dumpBehind displayKey field target w) :
    registry.dump displayKey schema (.object (before ++ (key, v) :: after)) =
      registry.dump displayKey schema (.object (before ++ (key, w) :: after)) := by
  refine dump_object_congr fun other hother => ?_
  rcases lookupName_replace other.name key v w before after with hsame | ⟨hname, hv, hw⟩
  · exact dumpField_congr (by simp only [Json.entryOf, hsame])
  · -- no two fields have one name, so it is this field that reads the value
    obtain rfl : field = other := by
      refine eq_of_key_eq hbuilt hfield hother ?_
      exact (Text.sameName_iff.mp hkey).symm.trans (Text.sameName_iff.mp hname)
    have hterminal := isTerminal_of_target_eq_ok htarget
    rw [dumpField_nested hterminal htarget, dumpField_nested hterminal htarget]
    simp only [Json.entryOf, hv, hw, Option.getD_some, h]

/-- **A dump does not read what the schemas do not declare**, at any depth.  By induction on the way
to the entry. -/
theorem dump_of_unread (hbuilt : ∀ schema, registry.Knows schema → schema.Built) {v w : Json}
    (h : registry.Unread schema v w) (hknows : registry.Knows schema) :
    registry.dump displayKey schema v = registry.dump displayKey schema w := by
  induction h with
  | @entry schema entries entries' hdiffer =>
    refine dump_object_congr fun field hfield => ?_
    by_cases htemplate : field.kind.isTemplate = true
    · obtain ⟨text, tags, hkind⟩ := FieldKind.eq_template htemplate
      rw [dumpField_template hkind, dumpField_template hkind]
    · have hname : ∀ key, schema.asksFor key = false → Text.sameName key field.name = false := by
        intro key hkey
        have hasks := (List.any_eq_false.mp hkey) field hfield
        simpa [htemplate] using hasks
      refine dumpField_congr ?_
      simp only [Json.entryOf, lookupName_of_differBy hdiffer hname]
  | @nested schema target field key v w before after hfield hkey hmany htarget _ ih =>
    refine dump_object_replace (hbuilt _ hknows) before after hfield hkey htarget ?_
    have hone : ¬field.kind.isMany = true := by simp [hmany]
    rw [dumpBehind, dumpBehind, if_neg hone, if_neg hone, ih (hknows.target hfield htarget)]
  | @item schema target field key v w before after items more hfield hkey hmany htarget _ ih =>
    refine dump_object_replace (hbuilt _ hknows) before after hfield hkey htarget ?_
    have hitem : registry.dump displayKey target v = registry.dump displayKey target w :=
      ih (hknows.target hfield htarget)
    rw [dumpBehind, dumpBehind, if_pos hmany, if_pos hmany]
    simp only [dumpItems, List.mapM_append, List.mapM_cons, hitem]

end Registry

/-! ## Renders -/

namespace Session

section AnyLibrary

variable [Liquid.Library] {registry : Registry} {displayKey : String}
  {entries entries' : List (String × Json)}

/-- Roots are dumped one after another. -/
theorem dumpRoots_append_congr {rest rest' : List (String × Json)}
    (h : dumpRoots registry displayKey rest = dumpRoots registry displayKey rest') :
    ∀ before : List (String × Json), dumpRoots registry displayKey (before ++ rest) =
      dumpRoots registry displayKey (before ++ rest')
  | [] => h
  | (name, v) :: before => by
    rw [List.cons_append, List.cons_append, dumpRoots, dumpRoots, dumpRoots_append_congr h before]

theorem dumpRoots_cons_of_unknown {name : String} (h : registry.lookup? name = none) (v : Json)
    (rest : List (String × Json)) :
    dumpRoots registry displayKey ((name, v) :: rest) = dumpRoots registry displayKey rest := by
  rw [dumpRoots]
  simp only [h]

/-- **One change that is not read does not matter.** -/
theorem dumpRoots_of_unread (hbuilt : ∀ schema, registry.Knows schema → schema.Built)
    (h : registry.UnreadRoots entries entries') :
    dumpRoots registry displayKey entries = dumpRoots registry displayKey entries' := by
  cases h with
  | entry hdiffer =>
    cases hdiffer with
    | added before value after hkey =>
      exact dumpRoots_append_congr (dumpRoots_cons_of_unknown hkey value after).symm before
    | removed before value after hkey =>
      exact dumpRoots_append_congr (dumpRoots_cons_of_unknown hkey value after) before
    | changed before value other after hkey =>
      refine dumpRoots_append_congr ?_ before
      rw [dumpRoots_cons_of_unknown hkey, dumpRoots_cons_of_unknown hkey]
  | @inside schema key v w before after hkey hunread =>
    have hknows : registry.Knows schema :=
      Registry.Knows.registered (Registry.mem_of_lookup?_eq_some hkey).1
    refine dumpRoots_append_congr ?_ before
    rw [dumpRoots, dumpRoots]
    simp only [hkey, Registry.dump_of_unread hbuilt hunread hknows]

/-- **Undeclared data cannot influence a render.**  However many entries that are not read are put
in, taken out or replaced, the data of a render are the same, and so is every render: its text or
its error. -/
theorem render_of_unread {session : Session}
    (hbuilt : ∀ schema, session.registry.Knows schema → schema.Built)
    (h : Relation.ReflTransGen session.registry.UnreadRoots entries entries') :
    session.context entries = session.context entries' ∧ ∀ template options,
      session.render (.object entries) template options =
        session.render (.object entries') template options := by
  have hroots : dumpRoots session.registry session.displayKey entries =
      dumpRoots session.registry session.displayKey entries' := by
    induction h with
    | refl => rfl
    | tail _ hunread ih => exact ih.trans (dumpRoots_of_unread hbuilt hunread)
  have hcontext : session.context entries = session.context entries' := by
    rw [context, context, hroots]
  refine ⟨hcontext, fun template options => ?_⟩
  rw [render, render]
  simp only [hcontext]

end AnyLibrary

/-- A cat beside the users, and the age of a dog, are never shown: neither is declared. -/
theorem render_of_unread_kennel :
    let rex : Json := .object [("name", .string "Rex")]
    let aged : Json := .object [("age", .number (.whole 3)), ("name", .string "Rex")]
    let data := [("user", Json.object [("dogs", .array [rex])])]
    let more := [("cat", .null), ("user", Json.object [("dogs", .array [aged])])]
    kennelSession.context more =
        .ok (.record "shown" [("user", .record "shown"
          [("dogs", .list [.record "shown" [("name", .ofText "Rex")]])])]) ∧
      ∀ template options, kennelSession.render (.object data) template options =
        kennelSession.render (.object more) template options := by
  intro rex aged data more
  have hdog : Registry.kennel.Unread Registry.dogSchema rex aged :=
    .entry (.added [] _ [("name", .string "Rex")] (by decide +kernel))
  have huser : Registry.kennel.Unread Registry.userSchema
      (.object ([] ++ ("dogs", .array ([] ++ rex :: [])) :: []))
      (.object ([] ++ ("dogs", .array ([] ++ aged :: [])) :: [])) :=
    .item [] [] [] [] List.mem_cons_self (by decide +kernel) rfl rfl hdog
  have haged : Registry.kennel.UnreadRoots data [("user", .object [("dogs", .array [aged])])] :=
    .inside [] [] (by decide +kernel) huser
  have hcat : Registry.kennel.UnreadRoots [("user", .object [("dogs", .array [aged])])] more :=
    .entry (.added [] .null _ (by decide +kernel))
  have hroots : Relation.ReflTransGen kennelSession.registry.UnreadRoots data more :=
    (Relation.ReflTransGen.single haged).tail hcat
  obtain ⟨hcontext, hrender⟩ := render_of_unread Registry.built_kennel hroots
  exact ⟨hcontext.symm.trans context_kennelSession, hrender⟩

end Session

end TagTemplates
