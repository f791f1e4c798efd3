import Mathlib.Data.List.Basic
import TagTemplates.Proofs.Registry.Walk
import TagTemplates.Proofs.Tag.Prefixes
import TagTemplates.Proofs.Text.Basic
import TagTemplates.Registry.Completion

/-!
# Completion against resolution

Completion goes down the schemas by itself, step by step, and stops where it cannot go on.  It
agrees with the resolver, which takes a whole path or refuses it.

* `completeSteps_of_endsOnList`, `validFragment_completeSteps`, `status_completeSteps`: the
  completion of the steps below a root, told by walks.
* `longestAccepted_lead_append_taken`: what a walk takes is the longest part that resolves.
* `complete_agrees`: the status and the valid part of every completion, told by the resolver.
-/

namespace TagTemplates

namespace Endpoint

/-- Whether a path that ends here has a text of its own. -/
def displays : Endpoint → Bool
  | record schema => schema.hasDisplay
  | field _ _ => true

end Endpoint

namespace Registry

variable {registry : Registry}

/-- The resolver accepts the steps as a path, with the given resolution. -/
def Accepts (registry : Registry) (steps : List Step) (r : Resolution) : Prop :=
  ∃ path, Path.ofSteps? steps = some path ∧ registry.resolveTag path = .ok r

/-- The longest part from the front that the resolver accepts. -/
def LongestAccepted (registry : Registry) (steps valid : List Step) : Prop :=
  valid <+: steps ∧ (∃ r, registry.Accepts valid r) ∧
    ∀ front r, front <+: steps → registry.Accepts front r → front.length ≤ valid.length

/-- The steps begin with an allowed root, without an index. -/
def Opens (registry : Registry) (filter : RootFilter) (steps : List Step) : Prop :=
  ∃ first rest root, steps = first :: rest ∧ first.index = none ∧
    registry.lookup? first.name = some root ∧ filter.allows first.name = true

/-- The step below a root that only repeats the root. -/
def lead (root : Schema) (steps : List Step) : List Step :=
  if skipsRootAlias root steps then steps.take 1 else []

/-! ## Steps that are skipped -/

/-- Whether the first step is skipped depends on that step alone. -/
theorem skipsRootAlias_cons (root : Schema) (s : Step) (steps others : List Step) :
    skipsRootAlias root (s :: steps) = skipsRootAlias root (s :: others) := rfl

theorem lead_append_stepsBelow (root : Schema) (steps : List Step) :
    lead root steps ++ stepsBelow root steps = steps := by
  rw [lead, stepsBelow]
  by_cases h : skipsRootAlias root steps = true
  · rw [if_pos h, if_pos h, List.take_append_drop]
  · rw [if_neg h, if_neg h, List.nil_append]

/-- Leaving out steps at the end leaves the skipped step alone. -/
theorem stepsBelow_lead_append (root : Schema) {steps below : List Step}
    (h : below <+: stepsBelow root steps) : stepsBelow root (lead root steps ++ below) = below := by
  cases steps with
  | nil =>
    rw [List.prefix_nil.mp h]
    rfl
  | cons s rest =>
    by_cases hs : skipsRootAlias root (s :: rest) = true
    · rw [lead, if_pos hs]
      show stepsBelow root (s :: below) = below
      rw [stepsBelow, skipsRootAlias_cons root s below rest, if_pos hs]
      rfl
    · rw [stepsBelow, if_neg hs] at h
      rw [lead, if_neg hs, List.nil_append, stepsBelow]
      cases below with
      | nil => rfl
      | cons t below =>
        obtain ⟨rfl, -⟩ := List.cons_prefix_cons.mp h
        rw [skipsRootAlias_cons root t below rest, if_neg hs]

theorem stepsBelow_isPrefix (root : Schema) {front steps : List Step} (h : front <+: steps) :
    stepsBelow root front <+: stepsBelow root steps ∧
      front <+: lead root steps ++ stepsBelow root front := by
  cases front with
  | nil => exact ⟨List.nil_prefix, List.nil_prefix⟩
  | cons s front =>
    cases steps with
    | nil => exact absurd h (by simp)
    | cons t rest =>
      obtain ⟨rfl, hrest⟩ := List.cons_prefix_cons.mp h
      rw [stepsBelow, stepsBelow, lead, skipsRootAlias_cons root s front rest]
      by_cases hs : skipsRootAlias root (s :: rest) = true
      · rw [if_pos hs, if_pos hs, if_pos hs]
        exact ⟨hrest, List.prefix_refl (s :: front)⟩
      · rw [if_neg hs, if_neg hs, if_neg hs]
        exact ⟨h, List.prefix_refl (s :: front)⟩

/-! ## What the resolver accepts -/

theorem accepts_cons_iff {first : Step} {rest : List Step} {r : Resolution} :
    registry.Accepts (first :: rest) r ↔
      first.index = none ∧ registry.lookup? first.name = some r.root ∧
        r.steps = stepsBelow r.root rest ∧
        r.steps.foldlM registry.advance (.record r.root) = .ok r.endpoint ∧
        r.throughList = registry.crosses (.record r.root) r.steps := by
  constructor
  · rintro ⟨path, hpath, hr⟩
    obtain rfl : ⟨first, rest⟩ = path := Option.some_inj.mp hpath
    exact resolveTag_eq_ok_iff.mp hr
  · intro hr
    exact ⟨⟨first, rest⟩, rfl, resolveTag_eq_ok_iff.mpr hr⟩

/-- The steps below a root resolve when they can be walked. -/
theorem accepts_cons_of_walk {first : Step} {rest : List Step} {root : Schema} {last : Endpoint}
    (hindex : first.index = none) (hroot : registry.lookup? first.name = some root)
    (hwalk : (stepsBelow root rest).foldlM registry.advance (.record root) = .ok last) :
    registry.Accepts (first :: rest)
      ⟨root, stepsBelow root rest, last,
        registry.crosses (.record root) (stepsBelow root rest)⟩ :=
  ⟨⟨first, rest⟩, rfl, resolveTag_of_walk ⟨first, rest⟩ hindex hroot hwalk⟩

theorem not_accepts_nil {r : Resolution} : ¬registry.Accepts [] r := by
  rintro ⟨path, hpath, -⟩
  exact absurd hpath (by simp [Path.ofSteps?])

/-- **What a walk takes is the longest part that resolves.**  A skipped step counts as part of
it. -/
theorem longestAccepted_lead_append_taken {first : Step} {rest : List Step} {root : Schema}
    (hindex : first.index = none) (hroot : registry.lookup? first.name = some root) :
    registry.LongestAccepted (first :: rest)
      (first :: (lead root rest ++ registry.taken (.record root) (stepsBelow root rest))) := by
  have hprefix : registry.taken (.record root) (stepsBelow root rest) <+: stepsBelow root rest :=
    taken_isPrefix (stepsBelow root rest) (.record root)
  refine ⟨List.cons_prefix_cons.mpr ⟨rfl, ?_⟩, ?_, ?_⟩
  · have happend := (List.prefix_append_right_inj (lead root rest)).mpr hprefix
    rwa [lead_append_stepsBelow] at happend
  · obtain ⟨last, hlast⟩ : ∃ last, (registry.taken (.record root) (stepsBelow root rest)).foldlM
        registry.advance (.record root) = .ok last :=
      foldlM_advance_taken (stepsBelow root rest) (.record root)
    rw [← stepsBelow_lead_append root hprefix] at hlast
    exact ⟨_, accepts_cons_of_walk hindex hroot hlast⟩
  · intro front r hfront hr
    cases front with
    | nil => exact absurd hr not_accepts_nil
    | cons s front =>
      obtain ⟨rfl, hrest⟩ := List.cons_prefix_cons.mp hfront
      obtain ⟨-, hlookup, hsteps, hwalk, -⟩ := accepts_cons_iff.mp hr
      obtain rfl : root = r.root := Option.some_inj.mp (hroot.symm.trans hlookup)
      obtain ⟨hbelow, hlead⟩ := stepsBelow_isPrefix r.root hrest
      rw [hsteps] at hwalk
      have htaken := isPrefix_taken hbelow hwalk
      have hall := hlead.trans ((List.prefix_append_right_inj (lead r.root rest)).mpr htaken)
      exact (List.cons_prefix_cons.mpr ⟨rfl, hall⟩).length_le

/-! ## The steps below a root -/

/-- A list at the end that is taken without an index is left out, and asks for one. -/
theorem completeSteps_of_endsOnList : ∀ (steps : List Step) (schema : Schema) (valid : List Step),
    registry.endsOnList schema steps = true →
      registry.completeSteps (some schema) valid steps =
        .make .invalid [indexHint] (valid ++ steps.dropLast)
  | [], _, _, h => absurd h (by simp [endsOnList])
  | s :: rest, schema, valid, h => by
    rw [endsOnList] at h
    cases hs : registry.step schema s with
    | error e => simp [hs] at h
    | ok landing =>
      cases landing with
      | terminal field => simp [hs] at h
      | nested field target =>
        simp only [hs] at h
        simp only [completeSteps, hs]
        cases rest with
        | nil =>
          have hmany : (field.kind.isMany && s.index.isNone) = true := by simpa using h
          rw [if_pos (by simpa using hmany), List.dropLast_singleton, List.append_nil]
        | cons t rest =>
          have hends : registry.endsOnList target (t :: rest) = true := by simpa using h
          rw [if_neg (by simp), completeSteps_of_endsOnList (t :: rest) target _ hends,
            List.dropLast_cons_cons, List.append_assoc, List.singleton_append]

/-- Behind a field that ends every path nothing is valid. -/
theorem completeSteps_none (valid steps : List Step) :
    registry.completeSteps none valid steps =
      .make (if steps.isEmpty then .valid else .invalid) [] valid := by
  cases steps with
  | nil => rfl
  | cons s rest => rfl

/-- A step that is refused ends completion, and only fields are offered. -/
theorem completeSteps_cons_of_error {schema : Schema} {s : Step} {e : ResolveError}
    (hs : registry.step schema s = .error e) (valid rest : List Step) :
    ∃ options, options ⊆ schema.fieldNames ∧
      registry.completeSteps (some schema) valid (s :: rest) = .make .invalid options valid := by
  simp only [completeSteps, hs]
  cases e with
  | unknownField owner field => exact ⟨_, List.filter_subset_self _, rfl⟩
  | unknownRoot name => exact ⟨_, List.nil_subset _, rfl⟩
  | indexedRoot name => exact ⟨_, List.nil_subset _, rfl⟩
  | indexNotAllowed owner field => exact ⟨_, List.nil_subset _, rfl⟩
  | trailingSteps owner field => exact ⟨_, List.nil_subset _, rfl⟩
  | unresolvedReference field target => exact ⟨_, List.nil_subset _, rfl⟩

theorem completeSteps_cons_of_terminal {schema : Schema} {s : Step} {field : Field}
    (hs : registry.step schema s = .ok (.terminal field)) (valid rest : List Step) :
    registry.completeSteps (some schema) valid (s :: rest) =
      .make (if rest.isEmpty then .valid else .invalid) [] (valid ++ [s]) := by
  simp only [completeSteps, hs]
  exact completeSteps_none (valid ++ [s]) rest

/-- Completion goes on behind a nested field, unless it is a list at the end. -/
theorem completeSteps_cons_of_nested {schema target : Schema} {s : Step} {field : Field}
    {rest : List Step} (hs : registry.step schema s = .ok (.nested field target))
    (h : registry.endsOnList schema (s :: rest) = false) (valid : List Step) :
    registry.completeSteps (some schema) valid (s :: rest) =
        registry.completeSteps (some target) (valid ++ [s]) rest ∧
      registry.endsOnList target rest = false := by
  rw [endsOnList] at h
  simp only [hs] at h
  simp only [completeSteps, hs]
  cases rest with
  | nil =>
    have hmany : (field.kind.isMany && s.index.isNone) = false := h
    rw [hmany]
    exact ⟨rfl, rfl⟩
  | cons t rest =>
    refine ⟨?_, h⟩
    rw [if_neg (by simp)]

/-- Unless the steps end on such a list, the valid part is what a walk takes. -/
theorem validFragment_completeSteps : ∀ (steps : List Step) (schema : Schema) (valid : List Step),
    registry.endsOnList schema steps = false →
      (registry.completeSteps (some schema) valid steps).validFragment =
        String.ofList (stepsSource (valid ++ registry.taken (.record schema) steps))
  | [], schema, valid, _ => by
    rw [taken, List.append_nil]
    rfl
  | s :: rest, schema, valid, h => by
    cases hs : registry.step schema s with
    | error e =>
      obtain ⟨options, -, hmake⟩ := completeSteps_cons_of_error hs valid rest
      rw [hmake, taken, advance_record_of_error hs, List.append_nil]
      rfl
    | ok landing =>
      cases landing with
      | terminal field =>
        have htaken : registry.taken (.field schema field) rest = [] := by
          cases rest with
          | nil => rfl
          | cons t rest => rfl
        rw [completeSteps_cons_of_terminal hs, taken, advance_record_of_terminal hs]
        simp only [htaken]
        rfl
      | nested field target =>
        obtain ⟨hnext, hends⟩ := completeSteps_cons_of_nested hs h valid
        rw [hnext, validFragment_completeSteps rest target _ hends, taken,
          advance_record_of_nested hs, List.append_assoc, List.singleton_append]

/-- Unless the steps end on such a list, they are valid when they can be walked to an endpoint that
has a text. -/
theorem status_completeSteps : ∀ (steps : List Step) (schema : Schema) (valid : List Step),
    registry.endsOnList schema steps = false →
      ((registry.completeSteps (some schema) valid steps).status = .valid ↔
        ∃ last, steps.foldlM registry.advance (.record schema) = .ok last ∧ last.displays = true)
  | [], schema, valid, _ => by
    show (if schema.hasDisplay then Status.valid else Status.invalid) = .valid ↔ _
    constructor
    · intro h
      refine ⟨.record schema, rfl, ?_⟩
      by_cases hdisplay : schema.hasDisplay = true
      · exact hdisplay
      · rw [if_neg hdisplay] at h
        exact absurd h (by simp)
    · rintro ⟨last, hlast, hdisplay⟩
      obtain rfl : Endpoint.record schema = last := Except.ok.inj hlast
      exact if_pos hdisplay
  | s :: rest, schema, valid, h => by
    cases hs : registry.step schema s with
    | error e =>
      obtain ⟨options, -, hmake⟩ := completeSteps_cons_of_error hs valid rest
      rw [hmake, foldlM_advance_cons_of_error (advance_record_of_error hs)]
      simp [Completion.make]
    | ok landing =>
      cases landing with
      | terminal field =>
        rw [completeSteps_cons_of_terminal hs,
          foldlM_advance_cons_of_ok (advance_record_of_terminal hs)]
        cases rest with
        | nil => exact ⟨fun _ => ⟨_, rfl, rfl⟩, fun _ => rfl⟩
        | cons t rest =>
          rw [foldlM_advance_cons_of_error (advance_field schema field t)]
          simp [Completion.make]
      | nested field target =>
        obtain ⟨hnext, hends⟩ := completeSteps_cons_of_nested hs h valid
        rw [hnext, foldlM_advance_cons_of_ok (advance_record_of_nested hs)]
        exact status_completeSteps rest target _ hends

/-- Steps that end on a list can be walked. -/
theorem foldlM_advance_of_endsOnList {steps : List Step} {schema : Schema}
    (h : registry.endsOnList schema steps = true) :
    ∃ last, steps.foldlM registry.advance (.record schema) = .ok last := by
  obtain ⟨front, s, owner, field, target, rfl, hfront, hs, -, -⟩ := exists_of_endsOnList h
  exact ⟨.record target, foldlM_advance_concat hfront (advance_record_of_nested hs)⟩

/-! ## Roots -/

/-- The names of the steps that are read are folded. -/
theorem fold_name_of_readPartial_eq {cs : List Char} {first : Step} {rest : List Step}
    (h : readPartial cs = first :: rest) : Text.fold first.name = first.name := by
  obtain ⟨written, more, -, hspells⟩ := exists_spelling_of_readPartialSteps _ h
  obtain ⟨piece, hspelled⟩ := hspells.exists_spelledBy first List.mem_cons_self
  exact hspelled.fold_name

/-- Completion trims a text before it is read, which trims it again. -/
theorem readPartial_trim (cs : List Char) : readPartial (Text.trim cs) = readPartial cs := by
  rw [readPartial, Text.trim_trim, readPartial]

theorem readPartial_of_trim_eq_nil {cs : List Char} (h : Text.trim cs = []) :
    readPartial cs = [] := by
  rw [readPartial, h, readPartialSteps]
  rfl

/-- A registered root is among those that are offered when the filter allows it. -/
theorem contains_rootNames {name : String} {root : Schema} (filter : RootFilter)
    (hfold : Text.fold name = name) (hroot : registry.lookup? name = some root) :
    (registry.rootNames filter).contains name = filter.allows name := by
  have hname : name ∈ registry.names := by
    rw [names, Text.mem_sortedOnce, List.mem_map]
    obtain ⟨hmem, hsame⟩ := mem_of_lookup?_eq_some hroot
    exact ⟨root, hmem, hsame.trans hfold⟩
  rw [Bool.eq_iff_iff, List.contains_iff_mem, rootNames, List.mem_filter]
  exact ⟨fun h => h.2, fun h => ⟨hname, h⟩⟩

/-- Steps that begin with an allowed root are completed below it. -/
theorem completePath_of_allowed {filter : RootFilter} {first : Step} {root : Schema}
    (rest : List Step) (hindex : first.index = none)
    (hroot : registry.lookup? first.name = some root)
    (hcontains : (registry.rootNames filter).contains first.name = true) :
    registry.completePath filter first rest =
      registry.completeSteps (some root) (first :: lead root rest) (stepsBelow root rest) := by
  simp only [completePath, hroot, hcontains, hindex]
  rw [lead, stepsBelow]
  by_cases hskips : skipsRootAlias root rest = true
  · rw [if_pos hskips, if_pos hskips, if_pos hskips]
    rfl
  · rw [if_neg hskips, if_neg hskips, if_neg hskips]
    rfl

/-- A root that is not offered ends completion at once, with the roots that begin like it. -/
theorem completePath_of_not_offered {filter : RootFilter} {first : Step} (rest : List Step)
    (h : ∀ root, registry.lookup? first.name = some root →
      (registry.rootNames filter).contains first.name = false) :
    registry.completePath filter first rest =
      if rest.isEmpty then
        .make .invalid ((registry.rootNames filter).filter fun name =>
          Text.startsWith name first.name) []
      else .make .invalid [] [] := by
  rw [completePath]
  cases hroot : registry.lookup? first.name with
  | none => rfl
  | some root =>
    simp only [h root hroot]

theorem completePath_of_index {filter : RootFilter} {first : Step} {root : Schema}
    (rest : List Step) (hindex : first.index ≠ none)
    (hroot : registry.lookup? first.name = some root)
    (hcontains : (registry.rootNames filter).contains first.name = true) :
    registry.completePath filter first rest = .make .invalid [] [] := by
  simp only [completePath, hroot, hcontains]
  exact if_pos (Option.isSome_iff_ne_none.mpr hindex)

/-- A text that has steps is completed by them. -/
theorem complete_of_readPartial {filter : RootFilter} {fragment : List Char} {first : Step}
    {rest : List Step} (hsteps : readPartial fragment = first :: rest) :
    registry.complete filter fragment = registry.completePath filter first rest := by
  have hnonempty : Text.trim fragment ≠ [] := by
    intro htrim
    rw [readPartial_of_trim_eq_nil htrim] at hsteps
    exact absurd hsteps (by simp)
  simp only [complete, readPartial_trim, hsteps]
  exact if_neg (by simpa using hnonempty)

/-- A text that begins with an allowed root is completed below it. -/
theorem complete_of_opens {filter : RootFilter} {fragment : List Char} {first : Step}
    {rest : List Step} {root : Schema} (hsteps : readPartial fragment = first :: rest)
    (hindex : first.index = none) (hroot : registry.lookup? first.name = some root)
    (hallows : filter.allows first.name = true) :
    registry.complete filter fragment =
      registry.completeSteps (some root) (first :: lead root rest) (stepsBelow root rest) := by
  rw [complete_of_readPartial hsteps]
  refine completePath_of_allowed rest hindex hroot ?_
  rw [contains_rootNames filter (fold_name_of_readPartial_eq hsteps) hroot]
  exact hallows

/-- Any other text is invalid from the start, and only roots are offered. -/
theorem exists_roots_of_not_opens {filter : RootFilter} {fragment : List Char}
    (h : ¬registry.Opens filter (readPartial fragment)) :
    ∃ options, options ⊆ registry.rootNames filter ∧
      registry.complete filter fragment = .make .invalid options [] := by
  have hnone : [] ⊆ registry.rootNames filter := List.nil_subset _
  cases hsteps : readPartial fragment with
  | nil =>
    simp only [complete, readPartial_trim, hsteps]
    by_cases hempty : (Text.trim fragment).isEmpty = true
    · rw [if_pos hempty]
      exact ⟨_, List.Subset.refl _, rfl⟩
    · rw [if_neg hempty]
      exact ⟨_, hnone, rfl⟩
  | cons first rest =>
    rw [complete_of_readPartial hsteps]
    have hfold := fold_name_of_readPartial_eq hsteps
    by_cases hoffered : ∃ root, registry.lookup? first.name = some root ∧
        (registry.rootNames filter).contains first.name = true
    · obtain ⟨root, hroot, hcontains⟩ := hoffered
      refine ⟨[], hnone, completePath_of_index rest (fun hindex => h ?_) hroot hcontains⟩
      rw [contains_rootNames filter hfold hroot] at hcontains
      exact ⟨first, rest, root, hsteps, hindex, hroot, hcontains⟩
    · have hnot : ∀ root, registry.lookup? first.name = some root →
          (registry.rootNames filter).contains first.name = false := fun root hroot =>
        Bool.eq_false_iff.mpr fun hcontains => hoffered ⟨root, hroot, hcontains⟩
      rw [completePath_of_not_offered rest hnot]
      by_cases hrest : rest.isEmpty = true
      · rw [if_pos hrest]
        exact ⟨_, List.filter_subset_self _, rfl⟩
      · rw [if_neg hrest]
        exact ⟨_, hnone, rfl⟩

theorem complete_of_not_opens {filter : RootFilter} {fragment : List Char}
    (h : ¬registry.Opens filter (readPartial fragment)) :
    ∃ options, registry.complete filter fragment = .make .invalid options [] := by
  obtain ⟨options, -, hmake⟩ := exists_roots_of_not_opens h
  exact ⟨options, hmake⟩

/-! ## Agreement -/

theorem endsOnList_nil (schema : Schema) : registry.endsOnList schema [] = false := rfl

/-- Steps that end on a list keep the root and a skipped step when their last step is left out. -/
theorem dropLast_of_endsOnList {root : Schema} {first : Step} {rest : List Step}
    (h : registry.endsOnList root (stepsBelow root rest) = true) :
    (first :: rest).dropLast = first :: lead root rest ++ (stepsBelow root rest).dropLast := by
  have hbelow : stepsBelow root rest ≠ [] := by
    intro hnil
    rw [hnil, endsOnList_nil] at h
    exact absurd h (by simp)
  calc (first :: rest).dropLast
      = (first :: (lead root rest ++ stepsBelow root rest)).dropLast := by
        rw [lead_append_stepsBelow]
    _ = (first :: lead root rest ++ stepsBelow root rest).dropLast := by
        rw [List.cons_append]
    _ = first :: lead root rest ++ (stepsBelow root rest).dropLast :=
        List.dropLast_append_of_ne_nil hbelow

/-- The status of a text that begins with an allowed root. -/
theorem status_complete_of_opens {filter : RootFilter} {fragment : List Char}
    (h : registry.Opens filter (readPartial fragment)) :
    (registry.complete filter fragment).status = .valid ↔
      ∃ r, registry.Accepts (readPartial fragment) r ∧
        registry.endsOnList r.root r.steps = false ∧ r.endpoint.displays = true := by
  obtain ⟨first, rest, root, hsteps, hindex, hroot, hallows⟩ := h
  rw [complete_of_opens hsteps hindex hroot hallows, hsteps]
  by_cases hends : registry.endsOnList root (stepsBelow root rest) = true
  · rw [completeSteps_of_endsOnList _ _ _ hends]
    constructor
    · intro hvalid
      exact absurd hvalid (by simp [Completion.make])
    · rintro ⟨r, hr, hnot, -⟩
      obtain ⟨-, hlookup, hbelow, -, -⟩ := accepts_cons_iff.mp hr
      obtain rfl : root = r.root := Option.some_inj.mp (hroot.symm.trans hlookup)
      rw [hbelow, hends] at hnot
      exact absurd hnot (by simp)
  · rw [status_completeSteps _ _ _ (Bool.eq_false_iff.mpr hends)]
    constructor
    · rintro ⟨last, hwalk, hdisplays⟩
      exact ⟨_, accepts_cons_of_walk hindex hroot hwalk, Bool.eq_false_iff.mpr hends, hdisplays⟩
    · rintro ⟨r, hr, -, hdisplays⟩
      obtain ⟨-, hlookup, hbelow, hwalk, -⟩ := accepts_cons_iff.mp hr
      obtain rfl : root = r.root := Option.some_inj.mp (hroot.symm.trans hlookup)
      rw [hbelow] at hwalk
      exact ⟨r.endpoint, hwalk, hdisplays⟩

/-- Only a text that begins with an allowed root can be valid. -/
theorem status_complete_iff (filter : RootFilter) (fragment : List Char) :
    (registry.complete filter fragment).status = .valid ↔
      ∃ first rest r, readPartial fragment = first :: rest ∧ filter.allows first.name = true ∧
        registry.Accepts (first :: rest) r ∧ registry.endsOnList r.root r.steps = false ∧
        r.endpoint.displays = true := by
  by_cases hopens : registry.Opens filter (readPartial fragment)
  · rw [status_complete_of_opens hopens]
    obtain ⟨first, rest, root, hsteps, -, -, hallows⟩ := hopens
    rw [hsteps]
    constructor
    · rintro ⟨r, hr, hends, hdisplays⟩
      exact ⟨first, rest, r, rfl, hallows, hr, hends, hdisplays⟩
    · rintro ⟨first', rest', r, heq, -, hr, hends, hdisplays⟩
      rw [heq]
      exact ⟨r, hr, hends, hdisplays⟩
  · obtain ⟨options, hmake⟩ := complete_of_not_opens hopens
    rw [hmake]
    constructor
    · intro hvalid
      exact absurd hvalid (by simp [Completion.make])
    · rintro ⟨first, rest, r, hsteps, hallows, hr, -, -⟩
      obtain ⟨hindex, hlookup, -, -, -⟩ := accepts_cons_iff.mp hr
      exact absurd ⟨first, rest, r.root, hsteps, hindex, hlookup, hallows⟩ hopens

/-- What a text that ends on a list is completed to. -/
theorem complete_of_accepts_of_endsOnList {filter : RootFilter} {fragment : List Char}
    {r : Resolution} (h : registry.Opens filter (readPartial fragment))
    (hr : registry.Accepts (readPartial fragment) r)
    (hends : registry.endsOnList r.root r.steps = true) :
    registry.complete filter fragment =
      .make .invalid [indexHint] (readPartial fragment).dropLast := by
  obtain ⟨first, rest, root, hsteps, hindex, hroot, hallows⟩ := h
  rw [hsteps] at hr ⊢
  obtain ⟨-, hlookup, hbelow, -, -⟩ := accepts_cons_iff.mp hr
  obtain rfl : root = r.root := Option.some_inj.mp (hroot.symm.trans hlookup)
  rw [hbelow] at hends
  rw [complete_of_opens hsteps hindex hroot hallows, completeSteps_of_endsOnList _ _ _ hends,
    dropLast_of_endsOnList hends]

/-- The valid part of a text that does not end on a list. -/
theorem exists_longestAccepted {filter : RootFilter} {fragment : List Char}
    (h : registry.Opens filter (readPartial fragment))
    (hnot : ∀ r, registry.Accepts (readPartial fragment) r →
      registry.endsOnList r.root r.steps = false) :
    ∃ valid, registry.LongestAccepted (readPartial fragment) valid ∧
      (registry.complete filter fragment).validFragment = String.ofList (stepsSource valid) := by
  obtain ⟨first, rest, root, hsteps, hindex, hroot, hallows⟩ := h
  rw [hsteps] at hnot ⊢
  have hends : registry.endsOnList root (stepsBelow root rest) = false := by
    refine Bool.eq_false_iff.mpr fun hends => ?_
    obtain ⟨last, hwalk⟩ := foldlM_advance_of_endsOnList hends
    have hfalse := hnot _ (accepts_cons_of_walk hindex hroot hwalk)
    exact absurd (hends.symm.trans hfalse) (by simp)
  refine ⟨_, longestAccepted_lead_append_taken hindex hroot, ?_⟩
  rw [complete_of_opens hsteps hindex hroot hallows, validFragment_completeSteps _ _ _ hends,
    List.cons_append]

/-- **Completion agrees with the resolver.**  A text is valid exactly when it begins with an allowed
root, the resolver accepts its steps, they do not end on a list without an index, and the endpoint
has a text.  The valid part of a text that begins with an allowed root is the longest part that the
resolver accepts, unless all of it is accepted and ends on such a list: then the last step is left
out, and all that may come next is an index.  Any other text has no valid part. -/
theorem complete_agrees (registry : Registry) (filter : RootFilter) (fragment : List Char) :
    ((registry.complete filter fragment).status = .valid ↔
        ∃ first rest r, readPartial fragment = first :: rest ∧ filter.allows first.name = true ∧
          registry.Accepts (first :: rest) r ∧ registry.endsOnList r.root r.steps = false ∧
          r.endpoint.displays = true) ∧
      (registry.Opens filter (readPartial fragment) →
        (∀ r, registry.Accepts (readPartial fragment) r →
          registry.endsOnList r.root r.steps = true →
            (registry.complete filter fragment).options = [":1"] ∧
              (registry.complete filter fragment).validFragment =
                String.ofList (stepsSource (readPartial fragment).dropLast)) ∧
        ((∀ r, registry.Accepts (readPartial fragment) r →
            registry.endsOnList r.root r.steps = false) →
          ∃ valid, registry.LongestAccepted (readPartial fragment) valid ∧
            (registry.complete filter fragment).validFragment =
              String.ofList (stepsSource valid))) ∧
      (¬registry.Opens filter (readPartial fragment) →
        (registry.complete filter fragment).validFragment = "") := by
  refine ⟨status_complete_iff filter fragment, fun hopens => ⟨fun r hr hends => ?_, ?_⟩, ?_⟩
  · rw [complete_of_accepts_of_endsOnList hopens hr hends]
    exact ⟨Text.sortedOnce_singleton indexHint, rfl⟩
  · exact exists_longestAccepted hopens
  · intro hopens
    obtain ⟨options, hmake⟩ := complete_of_not_opens hopens
    rw [hmake]
    rfl

/-- The list of a user's dogs, taken without an index, is left out and asks for one. -/
theorem complete_agrees_of_dogs :
    let dogs : Field := ⟨"dogs", .many (.direct ⟨1, "Dog", [⟨"name", .scalar⟩], none⟩)⟩
    let kennel : Registry := ⟨[⟨0, "User", [⟨"name", .scalar⟩, dogs], none⟩]⟩
    (kennel.complete RootFilter.all "User.dogs".toList).options = [":1"] ∧
      (kennel.complete RootFilter.all "User.dogs".toList).validFragment = "user" := by
  intro dogs kennel
  have hread : readPartial "User.dogs".toList = [⟨"user", none⟩, ⟨"dogs", none⟩] := by
    decide +kernel
  have hopens : kennel.Opens RootFilter.all (readPartial "User.dogs".toList) :=
    ⟨⟨"user", none⟩, [⟨"dogs", none⟩], ⟨0, "User", [⟨"name", .scalar⟩, dogs], none⟩, hread, rfl,
      by decide +kernel, by decide +kernel⟩
  obtain ⟨hoptions, hvalid⟩ := ((complete_agrees kennel RootFilter.all _).2.1 hopens).1
    ⟨⟨0, "User", [⟨"name", .scalar⟩, dogs], none⟩, [⟨"dogs", none⟩],
      .record ⟨1, "Dog", [⟨"name", .scalar⟩], none⟩, false⟩
    ⟨⟨⟨"user", none⟩, [⟨"dogs", none⟩]⟩, congrArg Path.ofSteps? hread, by decide +kernel⟩
    (by decide +kernel)
  refine ⟨hoptions, hvalid.trans ?_⟩
  rw [hread]
  decide +kernel

end Registry

end TagTemplates
