import TagTemplates.Proofs.Registry.Canonical

/-!
# Paths cut in two

A path can be cut behind any of its steps.  What stands in front of the cut resolves by itself, to a
record, and what stands behind it is walked from there as if the path had begun with this record.
The resolver decides three things by the place of a step: only the first one may repeat the root, a
list counts as crossed only when a step follows it, and nothing may follow a plain field.  A cut
moves the first part's last step to the end, and that is why a list which it takes has to be asked
for apart.

* `Registry.Reaches`: steps from a record, of which only the last may end on a field; `reaches_iff`.
* `Registry.TakesWhole`, `Registry.CrossesWhole`: lists that are taken without an index, with
  `crosses_iff`.
* `crosses_append`: the lists that two parts cross together.
* `EndsOnWhole`, `endsOnWhole_iff`: steps below a root of which the last takes a list.
* `resolve_append_eq_ok_iff`, `exists_resolve_of_isPrefix`: cutting, and the parts in front.
* `resolve_compositional`: both of them.
-/

namespace TagTemplates

namespace Registry

variable {registry : Registry} {root schema target : Schema} {s : Step}
  {steps front back : List Step} {last : Endpoint} {name : String} {r : Resolution}

/-! ## Steps from a record -/

/-- Steps that are taken one after another from a schema, and where they end.  Nothing follows a
step to a field that ends every path. -/
inductive Reaches (registry : Registry) : Schema → List Step → Endpoint → Prop where
  | here (schema : Schema) : registry.Reaches schema [] (.record schema)
  | nested {schema target : Schema} {s : Step} {field : Field} {rest : List Step}
      {last : Endpoint} : registry.step schema s = .ok (.nested field target) →
      registry.Reaches target rest last → registry.Reaches schema (s :: rest) last
  | terminal {schema : Schema} {s : Step} {field : Field} :
      registry.step schema s = .ok (.terminal field) →
      registry.Reaches schema [s] (.field schema field)

/-- What steps from a schema reach is where their walk ends. -/
theorem reaches_iff : ∀ {steps : List Step} {schema : Schema},
    registry.Reaches schema steps last ↔
      steps.foldlM registry.advance (.record schema) = .ok last
  | [], schema => by
    constructor
    · rintro ⟨⟩
      rfl
    · intro h
      obtain rfl : Endpoint.record schema = last := Except.ok.inj h
      exact .here schema
  | s :: rest, schema => by
    constructor
    · intro h
      cases h with
      | nested hs hrest =>
        rw [foldlM_advance_cons_of_ok (advance_record_of_nested hs)]
        exact reaches_iff.mp hrest
      | terminal hs => exact foldlM_advance_cons_of_ok (advance_record_of_terminal hs) []
    · intro h
      cases hs : registry.step schema s with
      | error e =>
        rw [foldlM_advance_cons_of_error (advance_record_of_error hs)] at h
        exact absurd h (by simp)
      | ok landing =>
        cases landing with
        | nested field target =>
          rw [foldlM_advance_cons_of_ok (advance_record_of_nested hs)] at h
          exact .nested hs (reaches_iff.mpr h)
        | terminal field =>
          rw [foldlM_advance_cons_of_ok (advance_record_of_terminal hs)] at h
          cases rest with
          | nil =>
            obtain rfl : Endpoint.field schema field = last := Except.ok.inj h
            exact .terminal hs
          | cons t rest =>
            rw [foldlM_advance_cons_of_error (advance_field schema field t)] at h
            exact absurd h (by simp)

/-! ## Lists without an index -/

/-- A step goes through a list of the schema and says nothing about which item it means. -/
def TakesWhole (registry : Registry) (schema : Schema) (s : Step) : Prop :=
  ∃ field target, registry.step schema s = .ok (.nested field target) ∧
    field.kind.isMany = true ∧ s.index = none

/-- Of the steps from a schema some step, but not the last one, takes a list without an index. -/
def CrossesWhole (registry : Registry) (schema : Schema) (steps : List Step) : Prop :=
  ∃ front s back owner, steps = front ++ s :: back ∧ back ≠ [] ∧
    registry.Reaches schema front (.record owner) ∧ registry.TakesWhole owner s

theorem takesWhole_iff {field : Field} (h : registry.step schema s = .ok (.nested field target)) :
    registry.TakesWhole schema s ↔ (field.kind.isMany && s.index.isNone) = true := by
  rw [Bool.and_eq_true, Option.isNone_iff_eq_none]
  constructor
  · rintro ⟨field', target', hs, hmany, hindex⟩
    obtain ⟨rfl, rfl⟩ := Landing.nested.inj (Except.ok.inj (hs.symm.trans h))
    exact ⟨hmany, hindex⟩
  · rintro ⟨hmany, hindex⟩
    exact ⟨field, target, h, hmany, hindex⟩

theorem not_takesWhole_of_terminal {field : Field}
    (h : registry.step schema s = .ok (.terminal field)) : ¬registry.TakesWhole schema s := by
  rintro ⟨list, target, hs, -⟩
  exact absurd (Except.ok.inj (hs.symm.trans h)) (by simp)

theorem not_takesWhole_of_error {e : ResolveError} (h : registry.step schema s = .error e) :
    ¬registry.TakesWhole schema s := by
  rintro ⟨list, target, hs, -⟩
  exact absurd (hs.symm.trans h) (by simp)

/-- Steps cross a list at once, or behind their first step. -/
theorem crossesWhole_cons : registry.CrossesWhole schema (s :: steps) ↔
    (registry.TakesWhole schema s ∧ steps ≠ []) ∨
      ∃ field target, registry.step schema s = .ok (.nested field target) ∧
        registry.CrossesWhole target steps := by
  constructor
  · rintro ⟨front, t, back, owner, hsteps, hback, hfront, ht⟩
    cases hfront with
    | here =>
      obtain ⟨rfl, rfl⟩ := List.cons.inj hsteps
      exact Or.inl ⟨ht, hback⟩
    | nested hs hrest =>
      obtain ⟨rfl, rfl⟩ := List.cons.inj hsteps
      exact Or.inr ⟨_, _, hs, _, t, back, owner, rfl, hback, hrest, ht⟩
  · rintro (⟨hs, hne⟩ | ⟨field, target, hs, front, t, back, owner, rfl, hback, hfront, ht⟩)
    · exact ⟨[], s, steps, schema, rfl, hne, .here schema, hs⟩
    · exact ⟨s :: front, t, back, owner, rfl, hback, .nested hs hfront, ht⟩

/-- **The flag of a walk**: it is raised by a list that is taken without an index, by any step but
the last one. -/
theorem crosses_iff : ∀ {steps : List Step} {schema : Schema},
    registry.crosses (.record schema) steps = true ↔ registry.CrossesWhole schema steps
  | [], schema => by
    rw [crosses]
    refine iff_of_false (by simp) ?_
    rintro ⟨front, t, back, owner, hsteps, -⟩
    exact absurd hsteps (by simp)
  | s :: rest, schema => by
    rw [crossesWhole_cons]
    cases hs : registry.step schema s with
    | error e =>
      simp only [crosses, hs]
      refine iff_of_false (by simp) ?_
      rintro (⟨htakes, -⟩ | ⟨field, target, hnested, -⟩)
      · exact not_takesWhole_of_error hs htakes
      · exact absurd hnested (by simp)
    | ok landing =>
      cases landing with
      | terminal field =>
        -- Nothing behind the field is looked at.
        have hfield : registry.crosses (.field schema field) rest = false := by cases rest <;> rfl
        simp only [crosses, hs, hfield]
        refine iff_of_false (by simp) ?_
        rintro (⟨htakes, -⟩ | ⟨list, target, hnested, -⟩)
        · exact not_takesWhole_of_terminal hs htakes
        · exact absurd hnested (by simp)
      | nested field target =>
        simp only [crosses, hs, Bool.or_eq_true, takesWhole_iff hs]
        rw [crosses_iff, Bool.and_eq_true, Bool.not_eq_true', List.isEmpty_eq_false_iff]
        refine or_congr Iff.rfl ⟨fun h => ⟨field, target, rfl, h⟩, ?_⟩
        rintro ⟨field', target', hnested, h⟩
        obtain ⟨rfl, rfl⟩ := Landing.nested.inj (Except.ok.inj hnested)
        exact h

/-- **What two parts cross together**: what either of them crosses, and a list that the first part
ends on. -/
theorem crosses_append (hback : back ≠ []) : ∀ {front : List Step} {schema : Schema},
    front.foldlM registry.advance (.record schema) = .ok (.record target) →
      registry.crosses (.record schema) (front ++ back) =
        (registry.crosses (.record schema) front || registry.endsOnList schema front ||
          registry.crosses (.record target) back)
  | [], schema, h => by
    obtain rfl : schema = target := Endpoint.record.inj (Except.ok.inj h)
    rfl
  | s :: rest, schema, h => by
    obtain ⟨field, next, hs, hrest⟩ := exists_nested_of_walk h
    have hne : (rest ++ back).isEmpty = false := by simp [hback]
    simp only [List.cons_append, crosses, endsOnList, hs, hne, Bool.not_false, Bool.and_true]
    rw [crosses_append hback hrest]
    cases rest with
    | nil => simp [crosses, endsOnList]
    | cons t rest => simp [Bool.or_assoc]

/-! ## Steps below a root -/

/-- Steps below the root of a name, of which the last one takes a list without an index. -/
def EndsOnWhole (registry : Registry) (name : String) (steps : List Step) : Prop :=
  ∃ front s r owner, steps = front ++ [s] ∧ registry.resolve name front = .ok r ∧
    r.endpoint = .record owner ∧ registry.TakesWhole owner s

theorem stepsBelow_nil (root : Schema) : stepsBelow root [] = [] := rfl

/-- A list that the last step takes, told by the steps that resolve in front of it. -/
theorem endsOnWhole_iff (hroot : registry.lookup? name = some root)
    (hwalk : (stepsBelow root steps).foldlM registry.advance (.record root) =
      .ok (.record target)) :
    registry.EndsOnWhole name steps ↔
      registry.endsOnList root (stepsBelow root steps) = true := by
  constructor
  · rintro ⟨front, s, r, owner, rfl, hfront, howner, htakes⟩
    obtain ⟨hlookup, hsteps, hreaches, -⟩ := resolve_eq_ok_iff.mp hfront
    obtain rfl : root = r.root := Option.some_inj.mp (hroot.symm.trans hlookup)
    obtain ⟨field, next, hs, hmany, hindex⟩ := id htakes
    have hskips : front = [] → skipsRootAlias r.root [s] = false := by
      rintro rfl
      rw [hsteps, stepsBelow_nil] at hreaches
      have hstart : r.root = owner := Endpoint.record.inj ((Except.ok.inj hreaches).trans howner)
      obtain ⟨hfield, -, -, -⟩ := step_eq_ok_nested hs
      rw [hstart]
      exact skipsRootAlias_of_isSome (by rw [hfield]; rfl) []
    rw [howner, hsteps] at hreaches
    rw [stepsBelow_append hskips, endsOnList_append hreaches, endsOnList, hs]
    exact (takesWhole_iff hs).mp htakes
  · intro h
    obtain ⟨front, s, owner, field, next, heq, hfront, hs, hmany, hindex⟩ := exists_of_endsOnList h
    have hbelow : stepsBelow root (lead root steps ++ front) = front :=
      stepsBelow_lead_append root ⟨[s], heq.symm⟩
    have hsteps : steps = lead root steps ++ front ++ [s] := by
      rw [List.append_assoc, ← heq, lead_append_stepsBelow]
    exact ⟨lead root steps ++ front, s,
      ⟨root, front, .record owner, registry.crosses (.record root) front⟩, owner, hsteps,
      resolve_eq_ok_iff.mpr ⟨hroot, hbelow.symm, hfront, rfl⟩, rfl, field, next, hs, hmany, hindex⟩

/-- The flag of a path that is cut behind its first step or later. -/
theorem crosses_stepsBelow_append (hroot : registry.lookup? name = some root) (hback : back ≠ [])
    (hwalk : (stepsBelow root front).foldlM registry.advance (.record root) =
      .ok (.record target)) :
    registry.crosses (.record root) (stepsBelow root front ++ back) = true ↔
      registry.crosses (.record root) (stepsBelow root front) = true ∨
        registry.EndsOnWhole name front ∨ registry.CrossesWhole target back := by
  have hlater : registry.crosses (.record target) back = true ↔ registry.CrossesWhole target back :=
    crosses_iff
  rw [crosses_append hback hwalk, Bool.or_eq_true, Bool.or_eq_true, hlater,
    endsOnWhole_iff hroot hwalk, or_assoc]

/-! ## Paths -/

/-- **Cutting a path.**  The steps in front of the cut resolve to a record and those behind it can
be taken from this record, and together they give the resolution of the path. -/
theorem resolve_append_eq_ok_iff (hfront : front ≠ []) (hback : back ≠ []) :
    registry.resolve name (front ++ back) = .ok r ↔ ∃ before target,
      registry.resolve name front = .ok before ∧ before.endpoint = .record target ∧
      registry.Reaches target back r.endpoint ∧ r.root = before.root ∧
      r.steps = before.steps ++ back ∧
      (r.throughList = true ↔ before.throughList = true ∨ registry.EndsOnWhole name front ∨
        registry.CrossesWhole target back) := by
  have hbelow : ∀ root, stepsBelow root (front ++ back) = stepsBelow root front ++ back :=
    fun root => stepsBelow_append fun hnil => absurd hnil hfront
  constructor
  · intro h
    obtain ⟨hroot, hsteps, hwalk, hflag⟩ := resolve_eq_ok_iff.mp h
    rw [hsteps, hbelow] at hwalk hflag
    -- A step follows the first part, so this part ends on a record.
    obtain ⟨s, rest, rfl⟩ := List.exists_cons_of_ne_nil hback
    obtain ⟨target, -, htarget, -⟩ := exists_record_of_walk_append hwalk
    rw [List.foldlM_append, htarget] at hwalk
    refine ⟨⟨r.root, stepsBelow r.root front, .record target,
      registry.crosses (.record r.root) (stepsBelow r.root front)⟩, target,
      resolve_eq_ok_iff.mpr ⟨hroot, rfl, htarget, rfl⟩, rfl, reaches_iff.mpr hwalk, rfl,
      hsteps.trans (hbelow r.root), ?_⟩
    rw [hflag]
    exact crosses_stepsBelow_append hroot hback htarget
  · rintro ⟨before, target, hbefore, htarget, hreaches, hroot, hsteps, hflag⟩
    obtain ⟨hlookup, hstepsBefore, hwalk, hflagBefore⟩ := resolve_eq_ok_iff.mp hbefore
    rw [htarget] at hwalk
    rw [hstepsBefore] at hwalk hsteps hflagBefore
    rw [← hroot] at hlookup hwalk hsteps hflagBefore
    refine resolve_eq_ok_iff.mpr ⟨hlookup, hsteps.trans (hbelow r.root).symm, ?_, ?_⟩
    · rw [hsteps, List.foldlM_append, hwalk]
      exact reaches_iff.mp hreaches
    · rw [hsteps, Bool.eq_iff_iff, hflag, hflagBefore]
      exact (crosses_stepsBelow_append hlookup hback hwalk).symm

/-- **The parts in front** of a path that resolves do so too, and end on records. -/
theorem exists_resolve_of_isPrefix (h : registry.resolve name steps = .ok r) (hne : front ≠ [])
    (hfront : front <+: steps) : ∃ before, registry.resolve name front = .ok before ∧
      (front ≠ steps → ∃ target, before.endpoint = .record target) := by
  obtain ⟨back, rfl⟩ := hfront
  cases back with
  | nil =>
    rw [List.append_nil] at h ⊢
    exact ⟨r, h, fun hdiffer => absurd rfl hdiffer⟩
  | cons s rest =>
    obtain ⟨before, target, hbefore, htarget, -⟩ :=
      (resolve_append_eq_ok_iff hne (List.cons_ne_nil s rest)).mp h
    exact ⟨before, hbefore, fun _ => ⟨target, htarget⟩⟩

/-- **Resolution is compositional.**  A path that is cut in two resolves exactly when its first part
resolves to a record and its second part can be taken from this record, where only the very last
step may end on a field.  It then ends where the second part ends, its steps are those of both
parts, and a list was crossed when the first part crossed one or ends on one, or when the second
part crosses one.  So all the parts in front of a path that resolves do so, and end on records. -/
theorem resolve_compositional (registry : Registry) (name : String) :
    (∀ front back r, front ≠ [] → back ≠ [] →
      (registry.resolve name (front ++ back) = .ok r ↔ ∃ before target,
        registry.resolve name front = .ok before ∧ before.endpoint = .record target ∧
        registry.Reaches target back r.endpoint ∧ r.root = before.root ∧
        r.steps = before.steps ++ back ∧
        (r.throughList = true ↔ before.throughList = true ∨ registry.EndsOnWhole name front ∨
          registry.CrossesWhole target back))) ∧
    ∀ steps r, registry.resolve name steps = .ok r → ∀ front, front ≠ [] → front <+: steps →
      ∃ before, registry.resolve name front = .ok before ∧
        (front ≠ steps → ∃ target, before.endpoint = .record target) :=
  ⟨fun _ _ _ hfront hback => resolve_append_eq_ok_iff hfront hback,
    fun _ _ h _ hne hfront => exists_resolve_of_isPrefix h hne hfront⟩

/-- The names of a user's dogs, cut behind the list that is taken without an index.  The first step
repeats the root. -/
theorem resolve_compositional_of_dogs :
    let dog : Schema := ⟨1, "Dog", [⟨"name", .scalar⟩], none⟩
    let user : Schema := ⟨0, "User", [⟨"dogs", .many (.direct dog)⟩], none⟩
    let kennel : Registry := ⟨[user]⟩
    kennel.resolve "user" ([⟨"user", none⟩, ⟨"dogs", none⟩] ++ [⟨"name", none⟩]) =
        .ok ⟨user, [⟨"dogs", none⟩, ⟨"name", none⟩], .field dog ⟨"name", .scalar⟩, true⟩ ∧
      ∃ before, kennel.resolve "user" [⟨"user", none⟩] = .ok before ∧
        ∃ target, before.endpoint = .record target := by
  intro dog user kennel
  have hdogs : kennel.resolve "user" [⟨"user", none⟩, ⟨"dogs", none⟩] =
      .ok ⟨user, [⟨"dogs", none⟩], .record dog, false⟩ := by decide +kernel
  have hends : kennel.EndsOnWhole "user" [⟨"user", none⟩, ⟨"dogs", none⟩] :=
    ⟨[⟨"user", none⟩], ⟨"dogs", none⟩, ⟨user, [], .record user, false⟩, user, rfl,
      by decide +kernel, rfl, ⟨"dogs", .many (.direct dog)⟩, dog, by decide +kernel, rfl, rfl⟩
  have hwhole := ((resolve_compositional kennel "user").1 [⟨"user", none⟩, ⟨"dogs", none⟩]
    [⟨"name", none⟩] ⟨user, [⟨"dogs", none⟩, ⟨"name", none⟩], .field dog ⟨"name", .scalar⟩, true⟩
    (by simp) (by simp)).mpr ⟨_, dog, hdogs, rfl, .terminal (by decide +kernel), rfl, rfl,
      iff_of_true rfl (Or.inr (Or.inl hends))⟩
  obtain ⟨before, hbefore, htarget⟩ := (resolve_compositional kennel "user").2 _ _ hwhole
    [⟨"user", none⟩] (by simp) ⟨[⟨"dogs", none⟩, ⟨"name", none⟩], rfl⟩
  exact ⟨hwhole, before, hbefore, htarget (by simp)⟩

end Registry

end TagTemplates
