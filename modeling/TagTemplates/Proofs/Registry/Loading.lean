import TagTemplates.Proofs.Registry.Changes
import TagTemplates.Proofs.Schema.Loading
import TagTemplates.Registry.Loading

/-!
# Loading into a registry

The schemas of a folder are new to a registry, since they are loaded under tokens that no registered
schema has.  So exactly the files that load are registered, in the order of their paths; where
loading has to be strict, all of them are or none.

* `Registry.token_lt_freshToken`, `Registry.registerAll_outcomes`: the schemas of a folder are new.
* `Loaded`, `loaded_of_loadEach`: what loading a folder answers, given what comes of its files.
* `exists_definitionOrder_loaded`: what comes of the files does not depend on the order in which the
  folders list them.
-/

namespace TagTemplates

variable {disk other : Disk} {path : String} {tree : FileTree} {registry : Registry} {token : Nat}

/-! ## New schemas -/

/-- The search for a fresh token passes the number that it begins with and every token. -/
theorem token_lt_foldl : ∀ (schemas : List Schema) (n : Nat),
    n ≤ schemas.foldl (fun n schema => max n (schema.token + 1)) n ∧
      ∀ schema ∈ schemas, schema.token < schemas.foldl (fun n schema => max n (schema.token + 1)) n
  | [], n => ⟨Nat.le_refl n, fun _ hmem => absurd hmem List.not_mem_nil⟩
  | first :: rest, n => by
    obtain ⟨hle, hrest⟩ := token_lt_foldl rest (max n (first.token + 1))
    rw [List.foldl_cons]
    exact ⟨by omega, List.forall_mem_cons.mpr ⟨by omega, hrest⟩⟩

theorem Registry.token_lt_freshToken {schema : Schema} (h : schema ∈ registry.schemas) :
    schema.token < registry.freshToken :=
  (token_lt_foldl registry.schemas 0).2 schema h

/-- **New schemas are registered in their order**, when they are loaded under tokens that no
registered schema has. -/
theorem Registry.registerAll_outcomes (htoken : registry.freshToken ≤ token) (disk : Disk)
    (files : List String) :
    registry.registerAll ((outcomes token disk files).filterMap Except.toOption) =
      ⟨registry.schemas ++ (outcomes token disk files).filterMap Except.toOption⟩ := by
  obtain ⟨hle, hpairwise⟩ := pairwise_token_outcomes disk files token
  refine registerAll_of_nodup ?_ fun schema hmem hold => ?_
  · refine hpairwise.imp fun {schema next} hlt heq => ?_
    subst heq
    exact Nat.lt_irrefl _ hlt
  · have hlt := token_lt_freshToken hold
    have hge := hle schema hmem
    omega

/-! ## Loading -/

/-- What loading a path answers and registers, given what comes of its definition files. -/
structure Loaded (outcomes : List (Except SchemaError Schema)) (registry : Registry) (token : Nat)
    (disk : Disk) (path : String) : Prop where
  /-- The schemas of the files that load. -/
  load_eq : load token disk path = outcomes.filterMap Except.toOption
  /-- The same list, if all of the files load. -/
  loadStrict_eq_ok_iff : ∀ schemas, loadStrict token disk path = .ok schemas ↔
    schemas = load token disk path ∧ ∀ outcome ∈ outcomes, ∃ schema, outcome = .ok schema
  /-- The error of the first file that does not. -/
  loadStrict_eq_error_iff : ∀ e, loadStrict token disk path = .error e ↔
    ∃ (front : List Schema) (behind : List (Except SchemaError Schema)),
      outcomes = front.map .ok ++ .error e :: behind
  /-- All that is loaded is registered behind everything else. -/
  registry_load : registry.load token disk path =
    (load token disk path, ⟨registry.schemas ++ load token disk path⟩)
  /-- When loading has to be strict and fails, there is no other registry than before. -/
  registry_loadStrict : registry.loadStrict token disk path =
    (loadStrict token disk path).map fun schemas => (schemas, ⟨registry.schemas ++ schemas⟩)

theorem filterMap_toOption_map_ok (schemas : List Schema) :
    (schemas.map (Except.ok : Schema → Except SchemaError Schema)).filterMap Except.toOption =
      schemas := by
  rw [List.filterMap_map]
  exact List.filterMap_some

/-- What is made of the outcomes of files. -/
theorem loaded_of_loadEach {files : List String} (htoken : registry.freshToken ≤ token)
    (hfind : ∃ tree, other.find? path = .ok tree)
    (heach : loadEach token other path = outcomes token disk files) :
    Loaded (outcomes token disk files) registry token other path := by
  have hload : load token other path =
      (outcomes token disk files).filterMap Except.toOption := by rw [load, heach]
  have hstrict : loadStrict token other path = (outcomes token disk files).mapM id := by
    obtain ⟨tree, htree⟩ := hfind
    rw [loadStrict, htree, heach]
  have hregister := Registry.registerAll_outcomes htoken disk files
  rw [← hload] at hregister
  have hok : ∀ schemas, loadStrict token other path = .ok schemas ↔
      outcomes token disk files = schemas.map .ok := by
    intro schemas
    rw [hstrict, mapM_id_eq_ok_iff]
  have hsame : ∀ {schemas}, loadStrict token other path = .ok schemas →
      schemas = load token other path := by
    intro schemas hschemas
    rw [hload, (hok schemas).mp hschemas, filterMap_toOption_map_ok]
  refine ⟨hload, fun schemas => ⟨fun hschemas => ⟨hsame hschemas, ?_⟩, ?_⟩, fun e => ?_, ?_, ?_⟩
  · rw [(hok schemas).mp hschemas]
    rintro outcome houtcome
    obtain ⟨schema, -, rfl⟩ := List.mem_map.mp houtcome
    exact ⟨schema, rfl⟩
  · rintro ⟨rfl, hall⟩
    cases hcase : loadStrict token other path with
    | ok schemas => rw [hsame hcase]
    | error e =>
      rw [hstrict, mapM_id_eq_error_iff] at hcase
      obtain ⟨front, behind, heq⟩ := hcase
      obtain ⟨schema, hschema⟩ := hall (.error e) (by rw [heq]; simp)
      exact nomatch hschema
  · rw [hstrict, mapM_id_eq_error_iff]
  · rw [Registry.load, hregister]
  · rw [Registry.loadStrict]
    cases hcase : loadStrict token other path with
    | error e => rfl
    | ok schemas =>
      obtain rfl := hsame hcase
      exact congrArg (fun after => Except.ok (_, after)) hregister

/-- **Loading a folder does not depend on the order in which folders list their entries.**  There is
one order of the definition files that the folder has, each of which stands at its path; what comes
of them, one by one and in this order, decides what is loaded and what is registered, whatever order
the entries are listed in. -/
theorem exists_definitionOrder_loaded (hwf : disk.root.WellFormed)
    (hfind : disk.find? path = .ok tree) :
    ∃ listed, DefinitionOrder tree path listed ∧
      (∀ parts ∈ listed, ∃ bytes, disk.find? (FilePath.below path parts) = .ok (.file bytes)) ∧
      ∀ other, disk.Rearranged other → ∀ registry token, Registry.freshToken registry ≤ token →
        Loaded (outcomes token disk (listed.map (FilePath.below path))) registry token other
          path := by
  obtain ⟨-, -, htree, -⟩ := (Disk.rearranged_self hwf).exists_twin hfind
  obtain ⟨listed, horder, -⟩ := exists_definitionOrder (Disk.ne_empty_of_find? hfind) htree
  refine ⟨listed, horder, fun parts hparts => ?_, fun other hother registry token htoken => ?_⟩
  · exact Disk.find?_below hfind htree ((horder.mem_iff parts).mp hparts).1
  · obtain ⟨hfound, heach⟩ := loadEach_of_rearranged hother hfind horder token
    exact loaded_of_loadEach htoken hfound heach

/-- A folder with two definitions, one of them in a folder of its own, a broken one and some notes. -/
def kennel : List (String × FileTree) :=
  [("broken.yaml", .ofText "name: ["), ("dogs", .folder [("dog.yaml", .ofText "name: Dog\n")]),
    ("notes.txt", .ofText "none"), ("user.yml", .ofText "name: User\n")]

/-- The definitions of the folder in their order. -/
theorem definitionOrder_kennel : DefinitionOrder (.folder kennel) "schemas"
    [["broken.yaml"], ["dogs", "dog.yaml"], ["user.yml"]] := by
  refine ⟨by decide +kernel, fun parts => ?_⟩
  have hfile : (FileTree.folder kennel).HasFile parts ↔
      parts ∈ (FileTree.folder kennel).files [] := by
    rw [FileTree.mem_files_iff]
    exact ⟨fun h => ⟨parts, rfl, h⟩, fun ⟨_, heq, h⟩ => heq ▸ h⟩
  have hnamed : ((FileTree.folder kennel).files []).filter
      (fun parts => isDefinitionName (parts.getLast?.getD (FilePath.name "schemas"))) =
        [["broken.yaml"], ["dogs", "dog.yaml"], ["user.yml"]] := by
    decide +kernel
  rw [← hnamed, List.mem_filter, hfile]

/-- The folder is read from its last entry to its first one: the two definitions are loaded all the
same in the order of their paths, and strict loading meets the broken one. -/
theorem exists_definitionOrder_loaded_of_kennel :
    let other : Disk := ⟨.folder [("schemas", .folder kennel.reverse)], []⟩
    (load 0 other "schemas").map Schema.name = ["Dog", "User"] ∧
      loadStrict 0 other "schemas" = .error (.definition "schemas/broken.yaml") ∧
      Registry.empty.load 0 other "schemas" =
        (load 0 other "schemas", ⟨load 0 other "schemas"⟩) := by
  intro other
  let disk : Disk := ⟨.folder [("schemas", .folder kennel)], []⟩
  have hkennel : (FileTree.folder kennel).WellFormed := by
    refine .folder (by decide +kernel) (by decide +kernel) ?_
    simp only [kennel, List.forall_mem_cons]
    refine ⟨.file _, .folder (by decide +kernel) (by decide +kernel) ?_, .file _, .file _, by simp⟩
    exact List.forall_mem_singleton.mpr (.file _)
  have hwf : disk.root.WellFormed :=
    .folder (by decide +kernel) (by decide +kernel) (List.forall_mem_singleton.mpr hkennel)
  have hother : disk.Rearranged other :=
    ⟨⟨hwf, .inside [] [] "schemas" (.entries (List.reverse_perm kennel).symm)⟩, rfl⟩
  have hfind : disk.find? "schemas" = .ok (.folder kennel) := rfl
  obtain ⟨listed, horder, -, hloaded⟩ := exists_definitionOrder_loaded hwf hfind
  rw [horder.unique definitionOrder_kennel] at hloaded
  have hresult := hloaded other hother .empty 0 (by decide)
  have houtcomes : outcomes 0 disk
      ([["broken.yaml"], ["dogs", "dog.yaml"], ["user.yml"]].map (FilePath.below "schemas")) =
        [.error (.definition "schemas/broken.yaml"), .ok ⟨1, "Dog", [], none⟩,
          .ok ⟨2, "User", [], none⟩] := by
    decide +kernel
  rw [houtcomes] at hresult
  refine ⟨?_, (hresult.loadStrict_eq_error_iff _).mpr ⟨[], _, rfl⟩, hresult.registry_load⟩
  rw [hresult.load_eq]
  rfl

end TagTemplates
