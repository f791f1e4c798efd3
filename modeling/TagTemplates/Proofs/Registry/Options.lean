import TagTemplates.Proofs.Dump.Walk
import TagTemplates.Proofs.Registry.Canonical

/-!
# What completion offers behind a path

Behind a path to a record, completion offers the fields of the record that begin like the name that
is being typed, and in front of any path it offers roots in the same way.  Nothing else is offered
and nothing is left out, however the path came to its record.

* `Completion.Offers`: a completion that offers the names with a given start.
* `step_folded`, `foldlM_advance_map_folded`, `stepsBelow_map_folded`: names are looked up in any
  case.
* `completeSteps_append_of_unknown`: completion behind a walk, at a name that is not declared.
* `complete_of_fits`, `complete_of_large`: paths whose indices fit, and paths that lose an index.
* `mem_rootNames_iff`, `complete_of_name`: what is offered for a name alone.
* `complete_prefix`: all of it, and `complete_of_unwritable` for a path that is not read.
-/

namespace TagTemplates

/-- A completion that is refused, and offers those of the names that begin with a text: sorted, each
once, behind the steps that are valid. -/
structure Completion.Offers (c : Completion) (valid : List Step) (names : List String)
    (start : String) : Prop where
  status : c.status = .invalid
  validFragment : c.validFragment = String.ofList (stepsSource valid)
  sorted : c.options.Pairwise (· < ·)
  mem_options : ∀ o, o ∈ c.options ↔ o ∈ names ∧ Text.startsWith o start = true

theorem Completion.offers_make (valid : List Step) (names : List String) (start : String) :
    (Completion.make .invalid (names.filter fun name => Text.startsWith name start) valid).Offers
      valid names start := by
  refine ⟨rfl, rfl, Text.pairwise_sortedOnce _, fun o => ?_⟩
  rw [Completion.make, Text.mem_sortedOnce, List.mem_filter]

variable {s : Step} {steps front back more : List Step} {q : String}

/-- A tag name is a run of name characters. -/
theorem run_of_isTagName (h : isTagName q = true) : Run Text.isNameChar q.toList :=
  run_of_fold_eq h rfl

/-- What holds of the steps of a path and of one more step holds of all of them. -/
theorem forall_mem_concat {path : Path} {t : Step} {p : Step → Prop} (hpath : ∀ s ∈ path.steps, p s)
    (ht : p t) : ∀ s ∈ path.root :: (path.rest ++ [t]), p s := by
  obtain ⟨hroot, hrest⟩ := List.forall_mem_cons.mp hpath
  exact List.forall_mem_cons.mpr
    ⟨hroot, List.forall_mem_append.mpr ⟨hrest, List.forall_mem_singleton.mpr ht⟩⟩

theorem source_name (q : String) : Step.source ⟨q, none⟩ = q.toList := List.append_nil _

theorem map_folded_eq_self (h : ∀ s ∈ steps, Text.fold s.name = s.name) :
    steps.map Step.folded = steps := by
  have hself : ∀ s ∈ steps, s.folded = id s := fun s hs => Step.folded_eq_self (h s hs)
  rw [List.map_congr_left hself, List.map_id]

namespace Registry

variable {registry : Registry} {root schema : Schema} {path : Path} {r : Resolution}
  {filter : RootFilter}

/-! ## Names in any case -/

/-- A step leads where it leads when its name is folded. -/
theorem step_folded {landing : Landing} (h : registry.step schema s = .ok landing) :
    registry.step schema s.folded = .ok landing := by
  have hfield : schema.field? s.folded.name = schema.field? s.name :=
    Schema.field?_congr (Text.fold_fold s.name)
  rw [step] at h ⊢
  rw [hfield]
  cases hs : schema.field? s.name with
  | none =>
    rw [hs] at h
    exact absurd h (by simp)
  | some field =>
    rw [hs] at h
    exact h

theorem advance_folded {endpoint next : Endpoint} (h : registry.advance endpoint s = .ok next) :
    registry.advance endpoint s.folded = .ok next := by
  cases endpoint with
  | field owner field => exact absurd h (by simp [advance])
  | record schema =>
    cases hs : registry.step schema s with
    | error e =>
      rw [advance_record_of_error hs] at h
      exact absurd h (by simp)
    | ok landing =>
      rw [advance, hs] at h
      rw [advance, step_folded hs]
      exact h

/-- A walk goes the same way when the names are folded. -/
theorem foldlM_advance_map_folded : ∀ {steps : List Step} {endpoint last : Endpoint},
    steps.foldlM registry.advance endpoint = .ok last →
      (steps.map Step.folded).foldlM registry.advance endpoint = .ok last
  | [], _, _, h => h
  | s :: rest, endpoint, last, h => by
    obtain ⟨next, hs, hrest⟩ := foldlM_advance_cons_eq_ok h
    rw [List.map_cons, foldlM_advance_cons_of_ok (advance_folded hs)]
    exact foldlM_advance_map_folded hrest

theorem skipsRootAlias_map_folded (root : Schema) (steps : List Step) :
    skipsRootAlias root (steps.map Step.folded) = skipsRootAlias root steps := by
  cases steps with
  | nil => rfl
  | cons s rest =>
    have hname : root.hasName s.folded.name = root.hasName s.name :=
      Schema.hasName_congr (Text.fold_fold s.name)
    have hfield : root.field? s.folded.name = root.field? s.name :=
      Schema.field?_congr (Text.fold_fold s.name)
    rw [List.map_cons, skipsRootAlias, skipsRootAlias, hname, hfield]
    rfl

theorem stepsBelow_map_folded (root : Schema) (steps : List Step) :
    stepsBelow root (steps.map Step.folded) = (stepsBelow root steps).map Step.folded := by
  rw [stepsBelow, stepsBelow, skipsRootAlias_map_folded]
  by_cases h : skipsRootAlias root steps = true
  · rw [if_pos h, if_pos h, List.map_drop]
  · rw [if_neg h, if_neg h]

/-- A list can be taken without the index that it was taken with. -/
theorem endsOnList_of_index {owner : Schema} {next : Endpoint} {i : Nat}
    (h : registry.advance (.record owner) s = .ok next) (hindex : s.index = some i) :
    registry.endsOnList owner [Step.folded ⟨s.name, none⟩] = true := by
  cases hs : registry.step owner s with
  | error e =>
    rw [advance_record_of_error hs] at h
    exact absurd h (by simp)
  | ok landing =>
    cases landing with
    | terminal field =>
      obtain ⟨-, hnone, -⟩ := step_eq_ok_terminal hs
      exact absurd (hindex.symm.trans hnone) (by simp)
    | nested field target =>
      obtain ⟨hfield, hmany, hterminal, htarget⟩ := step_eq_ok_nested hs
      have hlist : field.kind.isMany = true := hmany (by rw [hindex]; rfl)
      have hbare : registry.step owner ⟨s.name, none⟩ = .ok (.nested field target) := by
        simp [step, hfield, hterminal, htarget]
      simp only [endsOnList, step_folded hbare, hlist]
      rfl

/-! ## Completion behind a walk -/

/-- **Behind a walk to a record, a name that is not declared is completed to the fields that begin
like it.** -/
theorem completeSteps_append_of_unknown {t : Step} (ht : schema.field? t.name = none) :
    ∀ {below : List Step} {current : Schema} (valid : List Step),
      below.foldlM registry.advance (.record current) = .ok (.record schema) →
        registry.completeSteps (some current) valid (below ++ [t]) =
          .make .invalid (schema.fieldNames.filter fun name => Text.startsWith name t.name)
            (valid ++ below)
  | [], current, valid, h => by
    obtain rfl : current = schema := Endpoint.record.inj (Except.ok.inj h)
    have hunknown : registry.step current t = .error (.unknownField current.name t.name) := by
      simp only [step, ht]
    rw [List.nil_append, List.append_nil]
    simp only [completeSteps, hunknown]
  | s :: below, current, valid, h => by
    obtain ⟨field, target, hs, hbelow⟩ := exists_nested_of_walk h
    have ih := completeSteps_append_of_unknown ht (valid ++ [s]) hbelow
    rw [List.append_assoc, List.singleton_append] at ih
    simp only [List.cons_append, completeSteps, hs]
    rw [if_neg (by simp), ih]

theorem allows_congr {a b : String} (h : Text.fold a = Text.fold b) :
    filter.allows a = filter.allows b := by
  rw [RootFilter.allows, RootFilter.allows, h]

/-- What is typed behind a path is a path with one more step. -/
theorem source_append_name (path : Path) (q : String) :
    path.source ++ '.' :: q.toList = stepsSource (path.root :: (path.rest ++ [⟨q, none⟩])) := by
  have hconcat := stepsSource_concat (List.cons_ne_nil path.root path.rest) ⟨q, none⟩
  rw [source_name] at hconcat
  exact hconcat.symm

section Paths

variable (hbuilt : ∀ schema, registry.Knows schema → schema.Built)
  (hresolve : registry.resolveTag path = .ok r) (hallows : filter.allows path.root.name = true)

include hresolve hallows in
/-- What is read behind an allowed root is completed below it. -/
theorem complete_of_resolveTag {fragment : List Char} {rest : List Step}
    (hread : readPartial fragment = path.root.folded :: rest) :
    registry.complete filter fragment =
      registry.completeSteps (some r.root) (path.root.folded :: lead r.root rest)
        (stepsBelow r.root rest) := by
  obtain ⟨hindex, hlookup, -, -, -⟩ := resolveTag_eq_ok_iff.mp hresolve
  have hfold : Text.fold path.root.folded.name = Text.fold path.root.name :=
    Text.fold_fold path.root.name
  refine complete_of_opens hread hindex ?_ ?_
  · rw [lookup?_congr hfold]
    exact hlookup
  · rw [allows_congr hfold]
    exact hallows

include hbuilt hresolve

/-- The names of a path that resolves, and one more, can be written. -/
theorem run_name_concat (hq : isTagName q = true) :
    ∀ s ∈ path.root :: (path.rest ++ [⟨q, none⟩]), Run Text.isNameChar s.name.toList := by
  have haccepts : registry.Accepts path.steps r := ⟨path, path.ofSteps?_steps, hresolve⟩
  exact forall_mem_concat (run_name_of_accepts hbuilt haccepts) (run_of_isTagName hq)

/-- A path whose indices fit is read with the name behind it. -/
theorem readPartial_of_fits (hq : isTagName q = true) (hfits : ∀ s ∈ path.steps, s.IndexFits) :
    readPartial (path.source ++ '.' :: q.toList) =
      path.root.folded :: (path.rest.map Step.folded ++ [Step.folded ⟨q, none⟩]) := by
  have hnames := run_name_concat hbuilt hresolve hq
  have hallfit : ∀ s ∈ path.root :: (path.rest ++ [⟨q, none⟩]), s.IndexFits :=
    forall_mem_concat hfits (Step.indexFits_of_index_eq_none rfl)
  have hread := readPartial_of_readPath (readPath_stepsSource hnames hallfit)
  rwa [← source_append_name, Path.steps, List.map_append] at hread

/-- A path with an index that does not fit is read up to the name in front of this index. -/
theorem readPartial_of_large {i : Nat} (hq : isTagName q = true)
    (hrest : path.rest = front ++ s :: back) (hfits : ∀ t ∈ path.root :: front, t.IndexFits)
    (hindex : s.index = some i) (hlarge : maxIndex ≤ i) :
    readPartial (path.source ++ '.' :: q.toList) =
      path.root.folded :: (front.map Step.folded ++ [Step.folded ⟨s.name, none⟩]) := by
  have hnames := run_name_concat hbuilt hresolve hq
  have hall : path.root :: (path.rest ++ [⟨q, none⟩]) =
      (path.root :: front) ++ s :: (back ++ [⟨q, none⟩]) := by
    rw [hrest, List.append_assoc, List.cons_append, List.cons_append]
  rw [readPartial, source_append_name, trim_stepsSource hnames, hall]
  rw [hall] at hnames
  obtain ⟨hfront, hback⟩ := List.forall_mem_append.mp hnames
  exact readPartialSteps_of_large (hback s List.mem_cons_self) hindex hlarge hfront hfits

omit hbuilt in
/-- Without an index that is taken on the way, a path ends on the list that the index is for. -/
theorem endsOnList_of_resolveTag {i : Nat} (hrest : path.rest = front ++ s :: back)
    (hindex : s.index = some i) :
    registry.endsOnList r.root
      (stepsBelow r.root (front.map Step.folded ++ [Step.folded ⟨s.name, none⟩])) = true := by
  obtain ⟨-, -, hsteps, hwalk, -⟩ := resolveTag_eq_ok_iff.mp hresolve
  rw [hsteps, hrest, stepsBelow_append fun _ => skipsRootAlias_of_index hindex back] at hwalk
  obtain ⟨owner, next, hfront, hs⟩ := exists_record_of_walk_append hwalk
  -- when the list is a field of the root itself, its name is not taken for the root
  have hunskipped : front.map Step.folded = [] →
      skipsRootAlias r.root [Step.folded ⟨s.name, none⟩] = false := by
    intro hnil
    obtain rfl := List.map_eq_nil_iff.mp hnil
    obtain rfl : r.root = owner := Endpoint.record.inj (Except.ok.inj hfront)
    have hfield : (r.root.field? s.name).isSome = true := isSome_field?_of_advance hs
    exact (skipsRootAlias_map_folded r.root [⟨s.name, none⟩]).trans
      (skipsRootAlias_of_isSome (s := ⟨s.name, none⟩) hfield [])
  have hfolded := foldlM_advance_map_folded hfront
  rw [← stepsBelow_map_folded] at hfolded
  rw [stepsBelow_append hunskipped, endsOnList_append hfolded]
  exact endsOnList_of_index hs hindex

include hallows

/-- **Behind a path whose indices fit the fields of its record are offered.** -/
theorem complete_of_fits (hrecord : r.endpoint = .record schema) (hq : isTagName q = true)
    (hnone : schema.field? q = none) (halias : path.rest = [] → r.root.hasName q = false)
    (hfits : ∀ s ∈ path.steps, s.IndexFits) :
    (registry.complete filter (path.source ++ '.' :: q.toList)).Offers
      (path.steps.map Step.folded) schema.fieldNames (Text.fold q) := by
  obtain ⟨-, -, hsteps, hwalk, -⟩ := resolveTag_eq_ok_iff.mp hresolve
  rw [hrecord, hsteps] at hwalk
  have hbelow := foldlM_advance_map_folded hwalk
  rw [← stepsBelow_map_folded] at hbelow
  have hfield : schema.field? (Step.folded ⟨q, none⟩).name = none :=
    (Schema.field?_congr (Text.fold_fold q)).trans hnone
  have hunskipped : path.rest.map Step.folded = [] →
      skipsRootAlias r.root [Step.folded ⟨q, none⟩] = false := by
    intro hnil
    have hname : skipsRootAlias r.root [⟨q, none⟩] = false := by
      rw [skipsRootAlias, halias (List.map_eq_nil_iff.mp hnil), Bool.and_false, Bool.false_and]
    exact (skipsRootAlias_map_folded r.root [⟨q, none⟩]).trans hname
  rw [complete_of_resolveTag hresolve hallows (readPartial_of_fits hbuilt hresolve hq hfits),
    stepsBelow_append hunskipped, lead_append hunskipped,
    completeSteps_append_of_unknown hfield _ hbelow, List.cons_append, lead_append_stepsBelow]
  exact Completion.offers_make _ _ _

/-- **A path with an index that does not fit is read up to its list**, and asks for an index. -/
theorem complete_of_large {i : Nat} (hq : isTagName q = true)
    (hsteps : path.steps = front ++ s :: back) (hfits : ∀ t ∈ front, t.IndexFits)
    (hindex : s.index = some i) (hlarge : maxIndex ≤ i) :
    registry.complete filter (path.source ++ '.' :: q.toList) =
      .make .invalid [indexHint] (front.map Step.folded) := by
  -- the root has no index, so the step stands below it
  obtain ⟨mid, rfl, hrest⟩ : ∃ mid, front = path.root :: mid ∧ path.rest = mid ++ s :: back := by
    cases front with
    | nil =>
      obtain ⟨hroot, -⟩ := resolveTag_eq_ok_iff.mp hresolve
      obtain ⟨rfl, -⟩ := List.cons.inj hsteps
      exact absurd (hroot.symm.trans hindex) (by simp)
    | cons first mid =>
      obtain ⟨rfl, hrest⟩ := List.cons.inj hsteps
      exact ⟨mid, rfl, hrest⟩
  have hread := readPartial_of_large hbuilt hresolve hq hrest hfits hindex hlarge
  have hends := endsOnList_of_resolveTag hresolve hrest hindex
  rw [complete_of_resolveTag hresolve hallows hread, completeSteps_of_endsOnList _ _ _ hends,
    ← dropLast_of_endsOnList hends, ← List.cons_append, List.dropLast_concat]
  rfl

end Paths

/-! ## Completion of roots -/

/-- The roots that are offered are the names of the registered schemas that the filter allows. -/
theorem mem_rootNames_iff {name : String} : name ∈ registry.rootNames filter ↔
    (∃ root ∈ registry.schemas, root.key = name) ∧ filter.allows name = true := by
  rw [rootNames, List.mem_filter, names, Text.mem_sortedOnce, List.mem_map]

/-- A name alone is read as a root. -/
theorem readPartial_name (hq : Run Text.isNameChar q.toList) :
    readPartial q.toList = [⟨Text.fold q, none⟩] := by
  have hnames : ∀ s ∈ [Step.mk q none], Run Text.isNameChar s.name.toList :=
    List.forall_mem_singleton.mpr hq
  have hfits : ∀ s ∈ [Step.mk q none], s.IndexFits :=
    List.forall_mem_singleton.mpr (Step.indexFits_of_index_eq_none rfl)
  have hread := readPartial_of_readPath (readPath_stepsSource hnames hfits)
  rw [stepsSource_cons, source_name, sourceBelow, List.append_nil] at hread
  exact hread

/-- **A name that is no allowed root is completed to the roots that begin like it.** -/
theorem complete_of_name (hq : isTagName q = true)
    (hroots : Text.fold q ∉ registry.rootNames filter) :
    (registry.complete filter q.toList).Offers [] (registry.rootNames filter) (Text.fold q) := by
  have hnot : ∀ root, registry.lookup? (Step.mk (Text.fold q) none).name = some root →
      (registry.rootNames filter).contains (Step.mk (Text.fold q) none).name = false := fun _ _ =>
    Bool.eq_false_iff.mpr fun hcontains => hroots (List.contains_iff_mem.mp hcontains)
  have hpath : registry.completePath filter ⟨Text.fold q, none⟩ [] =
      .make .invalid ((registry.rootNames filter).filter fun name =>
        Text.startsWith name (Text.fold q)) [] :=
    (completePath_of_not_offered [] hnot).trans (if_pos rfl)
  rw [complete_of_readPartial (readPartial_name (run_of_isTagName hq)), hpath]
  exact Completion.offers_make _ _ _

/-! ## Prefixes -/

/-- **Completion of prefixes is exact.**  Behind a path to a record, under an allowed root, a name
that the record does not declare is refused; the path is the valid part, and the fields that begin
like the name are offered, in lower case.  Behind the root alone the name must not repeat the root.
All of this holds when the indices of the path fit; behind the first one that does not, nothing is
read, and its list asks for an index.  A name alone that is no allowed root is refused too, and the
allowed roots that begin like it are offered. -/
theorem complete_prefix (hbuilt : ∀ schema, registry.Knows schema → schema.Built)
    (filter : RootFilter) :
    (∀ path r schema q, registry.resolveTag path = .ok r → filter.allows path.root.name = true →
      r.endpoint = .record schema → isTagName q = true → schema.field? q = none →
      (path.rest = [] → r.root.hasName q = false) →
        let c := registry.complete filter (path.source ++ '.' :: q.toList)
        (path.WellFormed → c.Offers path.steps schema.fieldNames (Text.fold q)) ∧
        ((∀ s ∈ path.steps, s.IndexFits) →
          c.Offers (path.steps.map Step.folded) schema.fieldNames (Text.fold q)) ∧
        ∀ front s back i, path.steps = front ++ s :: back → (∀ t ∈ front, t.IndexFits) →
          s.index = some i → maxIndex ≤ i →
            c = .make .invalid [indexHint] (front.map Step.folded)) ∧
      ∀ q, isTagName q = true → Text.fold q ∉ registry.rootNames filter →
        (registry.complete filter q.toList).Offers [] (registry.rootNames filter)
          (Text.fold q) := by
  refine ⟨fun path r schema q hresolve hallows hrecord hq hnone halias => ?_, fun q => ?_⟩
  · have hfitting := complete_of_fits hbuilt hresolve hallows hrecord hq hnone halias
    refine ⟨fun hpath => ?_, hfitting, fun front s back i hsteps hfits hindex hlarge => ?_⟩
    · have hoffers := hfitting fun s hs => (hpath s hs).index
      rwa [map_folded_eq_self fun s hs => (hpath s hs).fold_name] at hoffers
    · exact complete_of_large hbuilt hresolve hallows hq hsteps hfits hindex hlarge
  · exact complete_of_name

/-- Behind a user's first dog, `NA` is completed to the name of the dog. -/
theorem complete_prefix_of_dogs :
    (kennel.complete RootFilter.all "user.dogs:1.NA".toList).Offers
        [⟨"user", none⟩, ⟨"dogs", some 0⟩] ["name"] "na" ∧
      (kennel.complete RootFilter.all "Us".toList).Offers [] ["user"] "us" := by
  obtain ⟨hpaths, hnames⟩ := complete_prefix built_kennel RootFilter.all
  obtain ⟨hoffers, -, -⟩ := hpaths ⟨⟨"user", none⟩, [⟨"dogs", some 0⟩]⟩
    ⟨userSchema, [⟨"dogs", some 0⟩], .record dogSchema, false⟩ dogSchema "NA" (by decide +kernel)
    (by decide +kernel) rfl (by decide +kernel) (by decide +kernel) (by decide)
  have hsource : Path.source ⟨⟨"user", none⟩, [⟨"dogs", some 0⟩]⟩ ++ '.' :: "NA".toList =
      "user.dogs:1.NA".toList := by
    decide +kernel
  have hfold : Text.fold "NA" = "na" ∧ Text.fold "Us" = "us" := by decide +kernel
  have hfields : dogSchema.fieldNames = ["name"] := by decide +kernel
  have hroots : kennel.rootNames RootFilter.all = ["user"] := by decide +kernel
  have hdogs := hoffers (by decide +kernel)
  have husers := hnames "Us" (by decide +kernel) (by decide +kernel)
  rw [hsource, hfields, hfold.1] at hdogs
  rw [hroots, hfold.2] at husers
  exact ⟨hdogs, husers⟩

/-- Behind the last dog that a number can count, the name of a dog is not offered: the index is not
read, and the list asks for another one. -/
theorem complete_of_unwritable :
    let last : Path := ⟨⟨"user", none⟩, [⟨"dogs", some 4294967295⟩]⟩
    kennel.resolveTag last =
        .ok ⟨userSchema, [⟨"dogs", some 4294967295⟩], .record dogSchema, false⟩ ∧
      last.source ++ '.' :: "na".toList = "user.dogs:4294967296.na".toList ∧
      (kennel.complete RootFilter.all (last.source ++ '.' :: "na".toList)).options = [":1"] ∧
      (kennel.complete RootFilter.all (last.source ++ '.' :: "na".toList)).validFragment =
        "user" := by
  intro last
  have hresolve : kennel.resolveTag last =
      .ok ⟨userSchema, [⟨"dogs", some 4294967295⟩], .record dogSchema, false⟩ := by
    decide +kernel
  have hroot : ∀ t ∈ [Step.mk "user" none], t.IndexFits :=
    List.forall_mem_singleton.mpr (Step.indexFits_of_index_eq_none rfl)
  have hsteps : last.steps = [⟨"user", none⟩] ++ ⟨"dogs", some 4294967295⟩ :: [] := rfl
  have hlarge : maxIndex ≤ 4294967295 := by decide
  have hcomplete : kennel.complete RootFilter.all (last.source ++ '.' :: "na".toList) =
      .make .invalid [indexHint] ([⟨"user", none⟩].map Step.folded) :=
    complete_of_large built_kennel hresolve (by decide +kernel) (by decide +kernel) hsteps hroot rfl
      hlarge
  refine ⟨hresolve, by decide +kernel, ?_, ?_⟩
  · rw [hcomplete]
    decide +kernel
  · rw [hcomplete]
    decide +kernel

end Registry

end TagTemplates
