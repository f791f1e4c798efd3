import TagTemplates.Proofs.Registry.Options
import TagTemplates.Proofs.Session.Rendering

/-!
# Taking up what is offered

Whatever completion offers can be taken up.  A root can be typed alone, an index closes the list that
was crossed last, and the name of a field continues the valid part.  Only a field that refers to a
schema by a name that nobody registered leads nowhere, although it is offered like the others.

* `resolveTag_concat`: one more step behind a path to a record.
* `exists_resolveTag_of_endsOnList`: a path to a list, with an index behind it.
* `mem_options_cases`: what is offered, and where.
* `option_progress`: all of it, for every text and every filter.
-/

namespace TagTemplates

namespace Registry

variable {registry : Registry} {filter : RootFilter} {fragment : List Char} {path : Path}
  {r : Resolution} {owner : Schema} {field : Field} {t : Step} {o : String}

/-! ## One more step -/

/-- **Behind a path to a record one more step leads where it leads from the record**, when the record
declares its name. -/
theorem resolveTag_concat (h : registry.resolveTag path = .ok r)
    (hrecord : r.endpoint = .record owner) (hfield : (owner.field? t.name).isSome = true) :
    (registry.resolveTag ⟨path.root, path.rest ++ [t]⟩).map Resolution.endpoint =
      registry.advance (.record owner) t := by
  obtain ⟨hindex, hlookup, hsteps, hwalk, -⟩ := resolveTag_eq_ok_iff.mp h
  rw [hsteps, hrecord] at hwalk
  have hunskipped : path.rest = [] → skipsRootAlias r.root [t] = false := by
    intro hrest
    rw [hrest] at hwalk
    obtain rfl : r.root = owner := Endpoint.record.inj (Except.ok.inj hwalk)
    exact skipsRootAlias_of_isSome hfield []
  have hresolve : registry.resolveTag ⟨path.root, path.rest ++ [t]⟩ =
      registry.resolve path.root.name (path.rest ++ [t]) :=
    if_neg (by simp [hindex])
  rw [hresolve, resolve_eq hlookup, stepsBelow_append hunskipped, List.foldlM_append, hwalk]
  show Except.map _ (Except.map _ ([t].foldlM registry.advance (.record owner))) = _
  cases ht : registry.advance (.record owner) t with
  | error e =>
    rw [foldlM_advance_cons_of_error ht]
    rfl
  | ok last =>
    rw [foldlM_advance_cons_of_ok ht]
    rfl

/-- A field whose schema is there can be stepped to. -/
theorem exists_advance_of_field (hfield : owner.field? t.name = some field) (hindex : t.index = none)
    (h : ∀ name, field.kind.target? = some (.named name) → (registry.lookup? name).isSome = true) :
    ∃ last, registry.advance (.record owner) t = .ok last := by
  by_cases hterminal : field.kind.isTerminal = true
  · have hs : registry.step owner t = .ok (.terminal field) := by
      simp [step, hfield, hindex, hterminal]
    exact ⟨_, advance_record_of_terminal hs⟩
  · obtain ⟨target, htarget⟩ : ∃ target, registry.target owner field = .ok target := by
      rw [Registry.target]
      cases hkind : field.kind.target? with
      | none => exact absurd (by rw [FieldKind.isTerminal, hkind]; rfl) hterminal
      | some reference =>
        cases reference with
        | direct schema => exact ⟨schema, rfl⟩
        | self => exact ⟨owner, rfl⟩
        | named name =>
          obtain ⟨schema, hschema⟩ := Option.isSome_iff_exists.mp (h name hkind)
          simp only [hschema]
          exact ⟨schema, rfl⟩
    have hs : registry.step owner t = .ok (.nested field target) := by
      simp [step, hfield, hindex, hterminal, htarget]
    exact ⟨_, advance_record_of_nested hs⟩

/-- A field whose schema is not registered cannot. -/
theorem advance_of_unregistered {name : String} (hfield : owner.field? t.name = some field)
    (hindex : t.index = none) (hkind : field.kind.target? = some (.named name))
    (h : registry.lookup? name = none) :
    registry.advance (.record owner) t = .error (.unresolvedReference field.name name) := by
  have hterminal : field.kind.isTerminal = false := by
    rw [FieldKind.isTerminal, hkind]
    rfl
  have htarget : registry.target owner field = .error (.unresolvedReference field.name name) := by
    simp only [Registry.target, hkind, h]
  refine advance_record_of_error ?_
  simp [step, hfield, hindex, hterminal, htarget]

/-- **A path that ends on a list can be given an index.** -/
theorem exists_resolveTag_of_endsOnList (h : registry.resolveTag path = .ok r)
    (hends : registry.endsOnList r.root r.steps = true) :
    ∃ front name indexed, path.rest = front ++ [⟨name, none⟩] ∧
      registry.resolveTag ⟨path.root, front ++ [⟨name, some 0⟩]⟩ = .ok indexed := by
  obtain ⟨hindex, hlookup, hsteps, -, -⟩ := resolveTag_eq_ok_iff.mp h
  obtain ⟨below, s, owner, field, target, hbelow, hwalk, hs, hmany, hnone⟩ :=
    exists_of_endsOnList hends
  obtain ⟨name, index⟩ := s
  obtain rfl : index = none := hnone
  have hrest : lead r.root path.rest ++ below ++ [⟨name, none⟩] = path.rest := by
    rw [List.append_assoc, ← hbelow, hsteps, lead_append_stepsBelow]
  -- without its last step the path ends on the record that has the list
  have hshort : below <+: stepsBelow r.root path.rest :=
    ⟨[⟨name, none⟩], hbelow.symm.trans hsteps⟩
  rw [← stepsBelow_lead_append r.root hshort] at hwalk
  have hfront := resolveTag_of_walk ⟨path.root, lead r.root path.rest ++ below⟩ hindex hlookup hwalk
  obtain ⟨hfield, -, hterminal, htarget⟩ := step_eq_ok_nested hs
  have hindexed : registry.step owner ⟨name, some 0⟩ = .ok (.nested field target) := by
    simp [step, hfield, hmany, hterminal, htarget]
  have hdeclared : (owner.field? name).isSome = true := by
    rw [hfield]
    rfl
  have hlast := resolveTag_concat (t := ⟨name, some 0⟩) hfront rfl hdeclared
  rw [advance_record_of_nested hindexed] at hlast
  obtain ⟨indexed, hresolve, -⟩ := map_eq_ok_iff.mp hlast
  exact ⟨_, name, indexed, hrest.symm, hresolve⟩

/-! ## Where options come from -/

/-- What is offered below a root are fields of the record that the walk ends on. -/
theorem exists_owner_of_mem_options : ∀ {steps : List Step} {root : Schema} {valid : List Step},
    registry.endsOnList root steps = false →
      o ∈ (registry.completeSteps (some root) valid steps).options →
        ∃ owner, (registry.taken (.record root) steps).foldlM registry.advance (.record root) =
          .ok (.record owner) ∧ o ∈ owner.fieldNames
  | [], root, valid, _, ho => ⟨root, rfl, Text.mem_sortedOnce.mp ho⟩
  | s :: rest, root, valid, hends, ho => by
    cases hs : registry.step root s with
    | error e =>
      obtain ⟨options, hfields, hmake⟩ := completeSteps_cons_of_error hs valid rest
      rw [hmake] at ho
      refine ⟨root, ?_, hfields (Text.mem_sortedOnce.mp ho)⟩
      rw [taken, advance_record_of_error hs]
      rfl
    | ok landing =>
      cases landing with
      | terminal field =>
        rw [completeSteps_cons_of_terminal hs] at ho
        exact absurd (Text.mem_sortedOnce.mp ho) List.not_mem_nil
      | nested field target =>
        obtain ⟨hnext, hbehind⟩ := completeSteps_cons_of_nested hs hends valid
        rw [hnext] at ho
        obtain ⟨owner, hwalk, hfield⟩ := exists_owner_of_mem_options hbehind ho
        refine ⟨owner, ?_, hfield⟩
        rw [taken, advance_record_of_nested hs]
        exact (foldlM_advance_cons_of_ok (advance_record_of_nested hs) _).trans hwalk

/-- **What is offered, and where.**  Roots are offered in front of everything; an index behind a path
that ends on a list; and behind a path to a record, its fields. -/
theorem mem_options_cases (h : o ∈ (registry.complete filter fragment).options) :
    ((registry.complete filter fragment).validFragment = "" ∧ o ∈ registry.rootNames filter) ∨
    (o = indexHint ∧ (registry.complete filter fragment).validFragment =
        String.ofList (stepsSource (readPartial fragment).dropLast) ∧
      ∃ path r, path.steps = readPartial fragment ∧ registry.resolveTag path = .ok r ∧
        registry.endsOnList r.root r.steps = true) ∨
    ∃ path r owner, path.steps <+: readPartial fragment ∧ registry.resolveTag path = .ok r ∧
      r.endpoint = .record owner ∧ o ∈ owner.fieldNames ∧
        (registry.complete filter fragment).validFragment = String.ofList path.source := by
  by_cases hopens : registry.Opens filter (readPartial fragment)
  · obtain ⟨first, rest, root, hsteps, hindex, hroot, hallows⟩ := hopens
    have hcomplete := complete_of_opens hsteps hindex hroot hallows
    rw [hcomplete] at h ⊢
    rw [hsteps]
    by_cases hends : registry.endsOnList root (stepsBelow root rest) = true
    · refine Or.inr (Or.inl ?_)
      obtain ⟨last, hwalk⟩ := foldlM_advance_of_endsOnList hends
      have hresolve := resolveTag_of_walk ⟨first, rest⟩ hindex hroot hwalk
      rw [completeSteps_of_endsOnList _ _ _ hends] at h ⊢
      have hhint : o = indexHint := List.mem_singleton.mp (Text.mem_sortedOnce.mp h)
      refine ⟨hhint, ?_, ⟨first, rest⟩, _, rfl, hresolve, hends⟩
      rw [dropLast_of_endsOnList hends]
      rfl
    · refine Or.inr (Or.inr ?_)
      rw [Bool.not_eq_true] at hends
      obtain ⟨owner, hwalk, hfield⟩ := exists_owner_of_mem_options hends h
      have htaken : registry.taken (.record root) (stepsBelow root rest) <+: stepsBelow root rest :=
        taken_isPrefix _ _
      rw [← stepsBelow_lead_append root htaken] at hwalk
      have hresolve := resolveTag_of_walk
        ⟨first, lead root rest ++ registry.taken (.record root) (stepsBelow root rest)⟩ hindex hroot
        hwalk
      obtain ⟨hfront, -, -⟩ : registry.LongestAccepted (first :: rest) _ :=
        longestAccepted_lead_append_taken hindex hroot
      refine ⟨⟨first, _⟩, _, owner, hfront, hresolve, rfl, hfield, ?_⟩
      rw [validFragment_completeSteps _ _ _ hends, List.cons_append]
      rfl
  · obtain ⟨options, hroots, hmake⟩ := exists_roots_of_not_opens hopens
    rw [hmake] at h ⊢
    exact Or.inl ⟨rfl, hroots (Text.mem_sortedOnce.mp h)⟩

end Registry

namespace Session

variable {session : Session} {filter : RootFilter} {fragment : List Char} {path : Path}
  {r : Resolution} {o : String}

/-! ## Reading what was offered -/

/-- A front part of what is read is a path that readers hand out. -/
theorem wellFormed_of_isPrefix (h : path.steps <+: readPartial fragment) : path.WellFormed :=
  fun _ hs => wellFormed_of_mem_readPartial (h.subset hs)

/-- Such a path is resolved from its source form. -/
theorem resolvePath_source (h : path.WellFormed) :
    session.resolvePath path.source = (session.registry.resolveTag path).mapError .resolve := by
  rw [resolvePath, read_source h]

theorem exists_resolvePath_source (h : path.WellFormed)
    (hresolve : ∃ r, session.registry.resolveTag path = .ok r) :
    ∃ r, session.resolvePath path.source = .ok r := by
  obtain ⟨r, hr⟩ := hresolve
  exact ⟨r, by rw [resolvePath_source h, hr]; rfl⟩

/-- An index behind a name at the end of a path. -/
theorem source_append_index (root : Step) (front : List Step) (name : String) :
    stepsSource (root :: (front ++ [⟨name, none⟩])) ++ indexHint.toList =
      Path.source ⟨root, front ++ [⟨name, some 0⟩]⟩ := by
  have hbare := stepsSource_concat (List.cons_ne_nil root front) ⟨name, none⟩
  have hindexed := stepsSource_concat (List.cons_ne_nil root front) ⟨name, some 0⟩
  have hhint : Step.source ⟨name, some 0⟩ = name.toList ++ indexHint.toList := by
    rw [Step.source]
    rfl
  rw [List.cons_append] at hbare hindexed
  rw [Path.source, Path.steps, hindexed, hbare, source_name, hhint, List.append_assoc,
    List.cons_append]

/-- A folded tag name is a step as it is read. -/
theorem wellFormed_fold {name : String} (h : isTagName name = true) :
    (Step.mk (Text.fold name) none).WellFormed :=
  Step.wellFormed_of_run (run_of_fold_eq h (Text.fold_fold name)) (Text.fold_fold name)
    (Step.indexFits_of_index_eq_none rfl)

/-- No name is an index. -/
theorem ne_indexHint_of_run (h : Run Text.isNameChar o.toList) : o ≠ indexHint := by
  rintro rfl
  exact absurd (h.all ':' List.mem_cons_self) (by decide)

/-- The valid part of a completion is not empty when there are steps. -/
theorem ofList_source_ne_empty (h : Run Text.isNameChar path.root.name.toList) :
    String.ofList path.source ≠ "" := by
  obtain ⟨c, more, hcs, -⟩ := exists_cons_stepsSource h path.rest
  intro hempty
  have hnil : path.source = [] := by simpa using congrArg String.toList hempty
  exact absurd (hcs.symm.trans hnil) (by simp)

section Options

variable (hbuilt : ∀ schema, session.registry.Knows schema → schema.Built)

include hbuilt

/-- A root that is offered is the valid part of its own completion. -/
theorem validFragment_of_mem_rootNames (h : o ∈ session.registry.rootNames filter) :
    (session.registry.complete filter o.toList).validFragment = o ∧ o ≠ indexHint := by
  obtain ⟨⟨root, hroot, rfl⟩, hallows⟩ := Registry.mem_rootNames_iff.mp h
  have hwell : (Step.mk root.key none).WellFormed :=
    wellFormed_fold (hbuilt root (.registered hroot)).isTagName
  obtain ⟨found, hfound⟩ : ∃ found, session.registry.lookup? root.key = some found := by
    refine Option.isSome_iff_exists.mp (List.find?_isSome.mpr ⟨root, hroot, ?_⟩)
    exact Text.sameName_iff.mpr hwell.fold_name.symm
  have hread := Registry.readPartial_name hwell.run_name
  rw [hwell.fold_name] at hread
  refine ⟨?_, ne_indexHint_of_run hwell.run_name⟩
  rw [Registry.complete_of_opens hread rfl hfound hallows]
  show String.ofList (Step.source ⟨root.key, none⟩) = root.key
  rw [source_name, String.ofList_toList]

omit hbuilt in
/-- **An index that is offered can be taken up.** -/
theorem exists_resolvePath_index (hsteps : path.steps = readPartial fragment)
    (hresolve : session.registry.resolveTag path = .ok r)
    (hends : session.registry.endsOnList r.root r.steps = true) :
    ∃ r, session.resolvePath (stepsSource (readPartial fragment) ++ indexHint.toList) = .ok r := by
  obtain ⟨front, name, indexed, hrest, hindexed⟩ :=
    Registry.exists_resolveTag_of_endsOnList hresolve hends
  have hread : path.steps <+: readPartial fragment := hsteps ▸ List.prefix_rfl
  have hpath : path.WellFormed := wellFormed_of_isPrefix hread
  obtain ⟨hroot, hbelow⟩ := List.forall_mem_cons.mp hpath
  rw [hrest] at hbelow
  obtain ⟨hfront, hlast⟩ := List.forall_mem_append.mp hbelow
  have hwritten : Path.WellFormed ⟨path.root, front ++ [⟨name, some 0⟩]⟩ := by
    refine List.forall_mem_cons.mpr ⟨hroot, List.forall_mem_append.mpr ⟨hfront, ?_⟩⟩
    refine List.forall_mem_singleton.mpr ⟨(hlast _ List.mem_cons_self).name, fun i hi => ?_⟩
    obtain rfl : 0 = i := Option.some_inj.mp hi
    exact Nat.zero_le _
  rw [← hsteps, Path.steps, hrest, source_append_index]
  exact exists_resolvePath_source hwritten ⟨indexed, hindexed⟩

/-- What is offered behind a path to a record is the name of a field, as it is read. -/
theorem wellFormed_of_mem_fieldNames {owner : Schema}
    (hresolve : session.registry.resolveTag path = .ok r) (hrecord : r.endpoint = .record owner)
    (h : o ∈ owner.fieldNames) : (Step.mk o none).WellFormed := by
  obtain ⟨-, hlookup, -, hwalk, -⟩ := Registry.resolveTag_eq_ok_iff.mp hresolve
  rw [hrecord] at hwalk
  have hroot : session.registry.Knows r.root :=
    .registered (Registry.mem_of_lookup?_eq_some hlookup).1
  obtain ⟨field, hfield, rfl⟩ := List.mem_map.mp h
  exact wellFormed_fold ((hbuilt owner (hroot.walk hwalk)).isTagName_field field hfield)

/-- **A field that is offered can be taken up**, unless the schema it refers to is not there. -/
theorem resolvePath_field {owner : Schema} (hpath : path.WellFormed)
    (hresolve : session.registry.resolveTag path = .ok r) (hrecord : r.endpoint = .record owner)
    (h : o ∈ owner.fieldNames) :
    ∃ field, owner.field? o = some field ∧
      ((∀ name, field.kind.target? = some (.named name) →
          (session.registry.lookup? name).isSome = true) →
        ∃ r, session.resolvePath (path.source ++ '.' :: o.toList) = .ok r) ∧
      ∀ name, field.kind.target? = some (.named name) → session.registry.lookup? name = none →
        session.resolvePath (path.source ++ '.' :: o.toList) =
          .error (.resolve (.unresolvedReference field.name name)) := by
  have hlast := wellFormed_of_mem_fieldNames hbuilt hresolve hrecord h
  have hwritten : Path.WellFormed ⟨path.root, path.rest ++ [⟨o, none⟩]⟩ :=
    forall_mem_concat hpath hlast
  have hsource : path.source ++ '.' :: o.toList =
      Path.source ⟨path.root, path.rest ++ [⟨o, none⟩]⟩ :=
    Registry.source_append_name path o
  obtain ⟨declared, hdeclared, hkey⟩ := List.mem_map.mp h
  have hsome : (owner.field? o).isSome = true := hkey ▸ Schema.isSome_field?_key hdeclared
  obtain ⟨field, hfield⟩ := Option.isSome_iff_exists.mp hsome
  have hstep := Registry.resolveTag_concat (t := ⟨o, none⟩) hresolve hrecord hsome
  rw [hsource]
  refine ⟨field, hfield, fun htargets => ?_, fun name hkind hnone => ?_⟩
  · obtain ⟨last, hlands⟩ := Registry.exists_advance_of_field (t := ⟨o, none⟩) hfield rfl htargets
    obtain ⟨found, hfound, -⟩ := map_eq_ok_iff.mp (hstep.trans hlands)
    exact exists_resolvePath_source hwritten ⟨found, hfound⟩
  · have hfails := Registry.advance_of_unregistered (t := ⟨o, none⟩) hfield rfl hkind hnone
    rw [resolvePath_source hwritten, map_eq_error_iff.mp (hstep.trans hfails)]
    rfl

/-- **Whatever is offered can be taken up.**  What is offered while nothing is valid yet is a root,
and it is the valid part of its own completion.  An index may follow the path that was read.
Anything else is a field of the record that the valid part ends on, and may follow the valid part
behind a dot; only when the field refers to a schema by a name that is not registered, the path is
refused for just this reason. -/
theorem option_progress (h : o ∈ (session.registry.complete filter fragment).options) :
    let c := session.registry.complete filter fragment
    (c.validFragment = "" → (session.registry.complete filter o.toList).validFragment = o) ∧
      (o = ":1" → ∃ r,
        session.resolvePath (stepsSource (readPartial fragment) ++ ":1".toList) = .ok r) ∧
      (c.validFragment ≠ "" → o ≠ ":1" → ∃ r owner field,
        session.resolvePath c.validFragment.toList = .ok r ∧ r.endpoint = .record owner ∧
          owner.field? o = some field ∧
          ((∀ name, field.kind.target? = some (.named name) →
              (session.registry.lookup? name).isSome = true) →
            ∃ r, session.resolvePath (c.validFragment.toList ++ '.' :: o.toList) = .ok r) ∧
          ∀ name, field.kind.target? = some (.named name) →
            session.registry.lookup? name = none →
              session.resolvePath (c.validFragment.toList ++ '.' :: o.toList) =
                .error (.resolve (.unresolvedReference field.name name))) := by
  intro c
  rcases Registry.mem_options_cases h with ⟨hempty, hroot⟩ |
    ⟨rfl, hvalid, path, r, hsteps, hresolve, hends⟩ |
    ⟨path, r, owner, hfront, hresolve, hrecord, hfield, hvalid⟩
  · obtain ⟨hself, hne⟩ := validFragment_of_mem_rootNames hbuilt hroot
    exact ⟨fun _ => hself, fun heq => absurd heq hne, fun hnot => absurd hempty hnot⟩
  · -- the root stands in front of the list, so the valid part is not empty
    obtain ⟨front, name, -, hrest, -⟩ := Registry.exists_resolveTag_of_endsOnList hresolve hends
    have hfront : (readPartial fragment).dropLast = Path.steps ⟨path.root, front⟩ := by
      rw [← hsteps, Path.steps, hrest, ← List.cons_append, List.dropLast_concat]
      rfl
    have hread : path.steps <+: readPartial fragment := hsteps ▸ List.prefix_rfl
    have hpath : path.WellFormed := wellFormed_of_isPrefix hread
    have hne : c.validFragment ≠ "" := by
      rw [hvalid, hfront]
      exact ofList_source_ne_empty (hpath path.root List.mem_cons_self).run_name
    exact ⟨fun hempty => absurd hempty hne,
      fun _ => exists_resolvePath_index hsteps hresolve hends, fun _ hnot => absurd rfl hnot⟩
  · have hpath : path.WellFormed := wellFormed_of_isPrefix hfront
    have hlast := wellFormed_of_mem_fieldNames hbuilt hresolve hrecord hfield
    have hvalidSource : c.validFragment.toList = path.source := by
      rw [hvalid, String.toList_ofList]
    have hroot := (hpath path.root List.mem_cons_self).run_name
    refine ⟨fun hempty => absurd (hvalid.symm.trans hempty) (ofList_source_ne_empty hroot),
      fun heq => absurd heq (ne_indexHint_of_run hlast.run_name), fun _ _ => ?_⟩
    obtain ⟨field, hfound, hgoes, hfails⟩ := resolvePath_field hbuilt hpath hresolve hrecord hfield
    rw [hvalidSource]
    refine ⟨r, owner, field, ?_, hrecord, hfound, hgoes, hfails⟩
    rw [resolvePath_source hpath, hresolve]
    rfl

end Options

/-- A user, the dogs of a user and one of them are offered one after another, and can be taken up. -/
theorem option_progress_of_dogs :
    (kennelSession.registry.complete .all "user".toList).validFragment = "user" ∧
      (∃ r, kennelSession.resolvePath "user.dogs".toList = .ok r) ∧
      ∃ r, kennelSession.resolvePath "user.dogs:1".toList = .ok r := by
  have huser : "user" ∈ (kennelSession.registry.complete .all "us".toList).options := by
    decide +kernel
  have hdogs : "dogs" ∈ (kennelSession.registry.complete .all "user".toList).options := by
    decide +kernel
  have hindex : ":1" ∈ (kennelSession.registry.complete .all "user.dogs".toList).options := by
    decide +kernel
  obtain ⟨hroot, -, -⟩ := option_progress Registry.built_kennel huser
  obtain ⟨-, -, hfield⟩ := option_progress Registry.built_kennel hdogs
  obtain ⟨-, hhint, -⟩ := option_progress Registry.built_kennel hindex
  have hvalid : (kennelSession.registry.complete .all "user".toList).validFragment = "user" :=
    hroot (by decide +kernel)
  refine ⟨hvalid, ?_, ?_⟩
  · obtain ⟨r, owner, field, hresolve, hrecord, hfound, hgoes, -⟩ :=
      hfield (by rw [hvalid]; decide) (by decide)
    rw [hvalid] at hresolve hgoes
    have hknown : kennelSession.resolvePath "user".toList =
        .ok ⟨Registry.userSchema, [], .record Registry.userSchema, false⟩ := by
      decide +kernel
    obtain rfl := Except.ok.inj (hknown.symm.trans hresolve)
    obtain rfl := Endpoint.record.inj hrecord
    have hdeclared : Registry.userSchema.field? "dogs" =
        some ⟨"dogs", .many (.direct Registry.dogSchema)⟩ := by
      decide +kernel
    obtain rfl := Option.some_inj.mp (hdeclared.symm.trans hfound)
    exact hgoes fun name hkind => absurd (Option.some_inj.mp hkind) (by simp)
  · have hread : readPartial "user.dogs".toList = [⟨"user", none⟩, ⟨"dogs", none⟩] := by
      decide +kernel
    have hsource : stepsSource [⟨"user", none⟩, ⟨"dogs", none⟩] ++ ":1".toList =
        "user.dogs:1".toList := by
      decide +kernel
    have hresolve := hhint rfl
    rwa [hread, hsource] at hresolve

end Session

end TagTemplates
