import TagTemplates.Proofs.Attempts
import TagTemplates.Proofs.Text.Basic
import TagTemplates.Registry.Resolution

/-!
# Walks as folds

A walk goes from endpoint to endpoint, one step at a time.  `Registry.advance` is one step between
endpoints, and a walk is the fold of it, together with one flag that only the fields on the way
decide.

* `walk_eq`: a walk is the fold of `advance`, and `crosses` is its flag.
* `exists_nested_of_walk`, `exists_record_of_walk_append`: walks that end on records, or go on there.
* `resolve_eq_ok_iff`, `resolveTag_eq_ok_iff`: what it means that a path resolves.
* `taken`: how far a walk gets, with `foldlM_advance_taken` and `isPrefix_taken` (it is the longest
  part from the front that can be walked).
* `endsOnList`: whether a walk ends on a list that is taken without an index, with
  `endsOnList_append` and `exists_of_endsOnList`.
-/

namespace TagTemplates

namespace Registry

variable {registry : Registry}

/-- Take one step from where a walk stands. -/
def advance (registry : Registry) (endpoint : Endpoint) (s : Step) :
    Except ResolveError Endpoint :=
  match endpoint with
  | .field owner field => .error (.trailingSteps owner.name field.name)
  | .record schema =>
    match registry.step schema s with
    | .error e => .error e
    | .ok (.nested _ target) => .ok (.record target)
    | .ok (.terminal field) => .ok (.field schema field)

/-- Whether a walk crosses a list without an index, with further steps behind it. -/
def crosses (registry : Registry) (endpoint : Endpoint) : List Step → Bool
  | [] => false
  | s :: rest =>
    match endpoint with
    | .field _ _ => false
    | .record schema =>
      match registry.step schema s with
      | .error _ => false
      | .ok (.nested field target) =>
        (field.kind.isMany && s.index.isNone && !rest.isEmpty) ||
          registry.crosses (.record target) rest
      | .ok (.terminal field) => registry.crosses (.field schema field) rest

/-- Whether a walk from a schema ends on a list that is taken without an index. -/
def endsOnList (registry : Registry) (schema : Schema) : List Step → Bool
  | [] => false
  | s :: rest =>
    match registry.step schema s with
    | .ok (.nested field target) =>
      if rest.isEmpty then field.kind.isMany && s.index.isNone
      else registry.endsOnList target rest
    | _ => false

/-- The steps that can be walked, up to the first one that cannot. -/
def taken (registry : Registry) (endpoint : Endpoint) : List Step → List Step
  | [] => []
  | s :: rest =>
    match registry.advance endpoint s with
    | .ok next => s :: registry.taken next rest
    | .error _ => []

/-! ## Look-ups -/

theorem mem_of_lookup?_eq_some {name : String} {schema : Schema}
    (h : registry.lookup? name = some schema) :
    schema ∈ registry.schemas ∧ schema.key = Text.fold name := by
  rw [lookup?] at h
  have hname : schema.hasName name = true := by
    have hfound := List.find?_some h
    exact hfound
  exact ⟨List.mem_of_find?_eq_some h, Text.sameName_iff.mp hname⟩

/-- A look-up depends on the folded name only. -/
theorem lookup?_congr {a b : String} (h : Text.fold a = Text.fold b) :
    registry.lookup? a = registry.lookup? b := by
  rw [lookup?, lookup?]
  refine congrArg (fun p => registry.schemas.find? p) (funext fun schema => ?_)
  rw [Schema.hasName, Schema.hasName, Text.sameName, Text.sameName, h]

theorem lookup?_key (schema : Schema) : registry.lookup? schema.key = registry.lookup? schema.name :=
  lookup?_congr (Text.fold_fold schema.name)

/-! ## One step -/

theorem advance_field (owner : Schema) (field : Field) (s : Step) :
    registry.advance (.field owner field) s =
      .error (.trailingSteps owner.name field.name) := rfl

theorem advance_record_of_error {schema : Schema} {s : Step} {e : ResolveError}
    (h : registry.step schema s = .error e) : registry.advance (.record schema) s = .error e := by
  rw [advance, h]

theorem advance_record_of_nested {schema target : Schema} {field : Field} {s : Step}
    (h : registry.step schema s = .ok (.nested field target)) :
    registry.advance (.record schema) s = .ok (.record target) := by
  rw [advance, h]

theorem advance_record_of_terminal {schema : Schema} {field : Field} {s : Step}
    (h : registry.step schema s = .ok (.terminal field)) :
    registry.advance (.record schema) s = .ok (.field schema field) := by
  rw [advance, h]

theorem foldlM_advance_cons_of_error {endpoint : Endpoint} {s : Step} {e : ResolveError}
    (h : registry.advance endpoint s = .error e) (rest : List Step) :
    (s :: rest).foldlM registry.advance endpoint = .error e := by
  rw [List.foldlM_cons, h]
  rfl

theorem foldlM_advance_cons_of_ok {endpoint next : Endpoint} {s : Step}
    (h : registry.advance endpoint s = .ok next) (rest : List Step) :
    (s :: rest).foldlM registry.advance endpoint = rest.foldlM registry.advance next := by
  rw [List.foldlM_cons, h]
  rfl

/-- A nonempty walk that succeeds begins with a step that does. -/
theorem foldlM_advance_cons_eq_ok {endpoint last : Endpoint} {s : Step} {rest : List Step}
    (h : (s :: rest).foldlM registry.advance endpoint = .ok last) :
    ∃ next, registry.advance endpoint s = .ok next ∧
      rest.foldlM registry.advance next = .ok last := by
  cases hs : registry.advance endpoint s with
  | error e =>
    rw [foldlM_advance_cons_of_error hs] at h
    exact absurd h (by simp)
  | ok next =>
    rw [foldlM_advance_cons_of_ok hs] at h
    exact ⟨next, rfl, h⟩

/-! ## Records on the way -/

/-- A walk that ends on a record goes through nested fields. -/
theorem exists_nested_of_walk {schema owner : Schema} {s : Step} {rest : List Step}
    (h : (s :: rest).foldlM registry.advance (.record schema) = .ok (.record owner)) :
    ∃ field target, registry.step schema s = .ok (.nested field target) ∧
      rest.foldlM registry.advance (.record target) = .ok (.record owner) := by
  cases hs : registry.step schema s with
  | error e =>
    rw [foldlM_advance_cons_of_error (advance_record_of_error hs)] at h
    exact absurd h (by simp)
  | ok landing =>
    cases landing with
    | nested field target =>
      rw [foldlM_advance_cons_of_ok (advance_record_of_nested hs)] at h
      exact ⟨field, target, rfl, h⟩
    | terminal field =>
      rw [foldlM_advance_cons_of_ok (advance_record_of_terminal hs)] at h
      cases rest with
      | nil => exact absurd (Except.ok.inj h) (by simp)
      | cons t rest =>
        rw [foldlM_advance_cons_of_error (advance_field schema field t)] at h
        exact absurd h (by simp)

/-- A walk that goes on went to a record before. -/
theorem exists_record_of_walk_append : ∀ {front back : List Step} {s : Step}
    {endpoint last : Endpoint}, (front ++ s :: back).foldlM registry.advance endpoint = .ok last →
      ∃ owner next, front.foldlM registry.advance endpoint = .ok (.record owner) ∧
        registry.advance (.record owner) s = .ok next
  | [], back, s, .field owner field, last, h => by
    rw [List.nil_append, foldlM_advance_cons_of_error (advance_field owner field s)] at h
    exact absurd h (by simp)
  | [], back, s, .record owner, last, h => by
    obtain ⟨next, hs, -⟩ := foldlM_advance_cons_eq_ok h
    exact ⟨owner, next, rfl, hs⟩
  | t :: front, back, s, endpoint, last, h => by
    obtain ⟨next, ht, hrest⟩ := foldlM_advance_cons_eq_ok h
    obtain ⟨owner, behind, hfront, hs⟩ := exists_record_of_walk_append hrest
    exact ⟨owner, behind, (foldlM_advance_cons_of_ok ht front).trans hfront, hs⟩

/-- A walk can be taken one step further. -/
theorem foldlM_advance_concat {front : List Step} {s : Step} {endpoint next last : Endpoint}
    (hfront : front.foldlM registry.advance endpoint = .ok next)
    (hs : registry.advance next s = .ok last) :
    (front ++ [s]).foldlM registry.advance endpoint = .ok last := by
  rw [List.foldlM_append, hfront]
  exact foldlM_advance_cons_of_ok hs []

/-! ## Walks -/

/-- **A walk is the fold of its steps.**  The flag is set from the start, or by a list that the walk
crosses. -/
theorem walk_eq : ∀ (steps : List Step) (endpoint : Endpoint) (crossed : Bool),
    registry.walk endpoint crossed steps =
      (steps.foldlM registry.advance endpoint).map
        fun last => (last, crossed || registry.crosses endpoint steps)
  | [], endpoint, crossed => by
    rw [walk, crosses, Bool.or_false]
    rfl
  | s :: rest, .field owner field, crossed => by
    rw [walk, foldlM_advance_cons_of_error (advance_field owner field s)]
    rfl
  | s :: rest, .record schema, crossed => by
    cases hs : registry.step schema s with
    | error e =>
      rw [foldlM_advance_cons_of_error (advance_record_of_error hs)]
      simp only [walk, hs]
      rfl
    | ok landing =>
      cases landing with
      | nested field target =>
        rw [foldlM_advance_cons_of_ok (advance_record_of_nested hs)]
        simp only [walk, crosses, hs]
        rw [walk_eq rest (.record target), Bool.or_assoc]
      | terminal field =>
        rw [foldlM_advance_cons_of_ok (advance_record_of_terminal hs)]
        simp only [walk, crosses, hs]
        exact walk_eq rest (.field schema field) crossed

/-- Steps below a root that is registered resolve to where they are walked. -/
theorem resolve_eq {name : String} {root : Schema} (h : registry.lookup? name = some root)
    (steps : List Step) :
    registry.resolve name steps =
      ((stepsBelow root steps).foldlM registry.advance (.record root)).map fun last =>
        ⟨root, stepsBelow root steps, last,
          registry.crosses (.record root) (stepsBelow root steps)⟩ := by
  rw [resolve, Registry.root, h]
  simp only [walk_eq, Bool.false_or]
  cases (stepsBelow root steps).foldlM registry.advance (.record root) with
  | error e => rfl
  | ok last => rfl

/-- **What it means that steps resolve**: their root is registered, the steps below it can be
walked, and the resolution tells where the walk ended. -/
theorem resolve_eq_ok_iff {name : String} {steps : List Step} {r : Resolution} :
    registry.resolve name steps = .ok r ↔
      registry.lookup? name = some r.root ∧ r.steps = stepsBelow r.root steps ∧
        r.steps.foldlM registry.advance (.record r.root) = .ok r.endpoint ∧
        r.throughList = registry.crosses (.record r.root) r.steps := by
  obtain ⟨root, below, endpoint, through⟩ := r
  cases hl : registry.lookup? name with
  | none => simp [resolve, Registry.root, hl]
  | some schema =>
    rw [resolve_eq hl, map_eq_ok_iff]
    simp only [Resolution.mk.injEq, Option.some.injEq]
    constructor
    · rintro ⟨last, hwalk, rfl, rfl, rfl, rfl⟩
      exact ⟨rfl, rfl, hwalk, rfl⟩
    · rintro ⟨rfl, rfl, hwalk, rfl⟩
      exact ⟨endpoint, hwalk, rfl, rfl, rfl, rfl⟩

/-- A path resolves when its root has no index and its steps resolve. -/
theorem resolveTag_eq_ok_iff {path : Path} {r : Resolution} :
    registry.resolveTag path = .ok r ↔
      path.root.index = none ∧ registry.lookup? path.root.name = some r.root ∧
        r.steps = stepsBelow r.root path.rest ∧
        r.steps.foldlM registry.advance (.record r.root) = .ok r.endpoint ∧
        r.throughList = registry.crosses (.record r.root) r.steps := by
  rw [resolveTag, ← resolve_eq_ok_iff]
  cases path.root.index with
  | none => simp
  | some i => simp

/-- A path resolves when the steps below its root can be walked. -/
theorem resolveTag_of_walk (path : Path) {root : Schema} {last : Endpoint}
    (hindex : path.root.index = none) (hroot : registry.lookup? path.root.name = some root)
    (hwalk : (stepsBelow root path.rest).foldlM registry.advance (.record root) = .ok last) :
    registry.resolveTag path = .ok ⟨root, stepsBelow root path.rest, last,
      registry.crosses (.record root) (stepsBelow root path.rest)⟩ :=
  resolveTag_eq_ok_iff.mpr ⟨hindex, hroot, rfl, hwalk, rfl⟩

/-! ## Walks that end on a list -/

/-- Whether a walk ends on a list is decided behind the record that it goes on from. -/
theorem endsOnList_append : ∀ {front : List Step} {root owner : Schema},
    front.foldlM registry.advance (.record root) = .ok (.record owner) → ∀ (s : Step) back,
      registry.endsOnList root (front ++ s :: back) = registry.endsOnList owner (s :: back)
  | [], root, owner, h, s, back => by
    obtain rfl : root = owner := Endpoint.record.inj (Except.ok.inj h)
    rfl
  | t :: front, root, owner, h, s, back => by
    obtain ⟨field, target, ht, hrest⟩ := exists_nested_of_walk h
    rw [List.cons_append, endsOnList, ht]
    show (if (front ++ s :: back).isEmpty = true then _ else _) = _
    rw [if_neg (by simp), endsOnList_append hrest s back]

/-- What it means that a walk ends on a list: its last step goes through the list from a record. -/
theorem exists_of_endsOnList : ∀ {steps : List Step} {root : Schema},
    registry.endsOnList root steps = true → ∃ front s owner field target, steps = front ++ [s] ∧
      front.foldlM registry.advance (.record root) = .ok (.record owner) ∧
        registry.step owner s = .ok (.nested field target) ∧ field.kind.isMany = true ∧
          s.index = none
  | [], root, h => absurd h (by simp [endsOnList])
  | s :: rest, root, h => by
    rw [endsOnList] at h
    cases hs : registry.step root s with
    | error e => simp [hs] at h
    | ok landing =>
      cases landing with
      | terminal field => simp [hs] at h
      | nested field target =>
        simp only [hs] at h
        cases rest with
        | nil =>
          obtain ⟨hmany, hindex⟩ := Bool.and_eq_true_iff.mp h
          exact ⟨[], s, root, field, target, rfl, rfl, hs, hmany, Option.isNone_iff_eq_none.mp hindex⟩
        | cons t rest =>
          obtain ⟨front, last, owner, list, behind, heq, hfront, hlast⟩ := exists_of_endsOnList h
          refine ⟨s :: front, last, owner, list, behind, ?_, ?_, hlast⟩
          · rw [heq, List.cons_append]
          · exact (foldlM_advance_cons_of_ok (advance_record_of_nested hs) front).trans hfront

/-! ## How far a walk gets -/

theorem taken_isPrefix : ∀ (steps : List Step) (endpoint : Endpoint),
    registry.taken endpoint steps <+: steps
  | [], _ => List.prefix_refl []
  | s :: rest, endpoint => by
    rw [taken]
    cases registry.advance endpoint s with
    | error e => exact List.nil_prefix
    | ok next => exact List.cons_prefix_cons.mpr ⟨rfl, taken_isPrefix rest next⟩

/-- What is taken can be walked. -/
theorem foldlM_advance_taken : ∀ (steps : List Step) (endpoint : Endpoint),
    ∃ last, (registry.taken endpoint steps).foldlM registry.advance endpoint = .ok last
  | [], endpoint => ⟨endpoint, rfl⟩
  | s :: rest, endpoint => by
    rw [taken]
    cases hs : registry.advance endpoint s with
    | error e => exact ⟨endpoint, rfl⟩
    | ok next =>
      obtain ⟨last, hlast⟩ := foldlM_advance_taken rest next
      exact ⟨last, (foldlM_advance_cons_of_ok hs _).trans hlast⟩

/-- Whatever can be walked from the front is taken. -/
theorem isPrefix_taken : ∀ {front steps : List Step} {endpoint last : Endpoint},
    front <+: steps → front.foldlM registry.advance endpoint = .ok last →
      front <+: registry.taken endpoint steps
  | [], _, _, _, _, _ => List.nil_prefix
  | s :: front, [], _, _, hprefix, _ => absurd hprefix (by simp)
  | s :: front, t :: rest, endpoint, last, hprefix, hwalk => by
    obtain ⟨rfl, hrest⟩ := List.cons_prefix_cons.mp hprefix
    obtain ⟨next, hs, hnext⟩ := foldlM_advance_cons_eq_ok hwalk
    rw [taken, hs]
    exact List.cons_prefix_cons.mpr ⟨rfl, isPrefix_taken hrest hnext⟩

end Registry

end TagTemplates
