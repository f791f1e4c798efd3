import TagTemplates.Proofs.Attempts
import TagTemplates.Proofs.Files.Rearranged
import TagTemplates.Schema.Loading

/-!
# The order of definitions

The definition files below a path are read one after another, sorted by the parts of their paths.
Sorted as they are, the order in which the folders list their entries has no say in it: the same
files are read in the same order, and each of them holds the same.

* `DefinitionOrder`: the order of the definition files of a tree, with `DefinitionOrder.unique`.
* `exists_definitionOrder`: the files that are read, in this order.
* `loadFile_eq_map`, `loadFile_congr`: a file loads or fails whatever the token of its schema is,
  and by what can be read of the disk alone.
* `outcomes`, `pairwise_token_outcomes`: what comes of files one after another.
* `loadEach_of_rearranged`: what comes of the files of a rearranged disk.
-/

namespace TagTemplates

/-! ## The order of definition files -/

/-- The definition files of a tree at a path, each of them once and sorted by their paths.  A file
is told by its own name; the tree may be a file itself. -/
structure DefinitionOrder (tree : FileTree) (path : String) (listed : List (List String)) :
    Prop where
  sorted : listed.Pairwise (· < ·)
  mem_iff : ∀ parts, parts ∈ listed ↔
    tree.HasFile parts ∧ isDefinitionName (parts.getLast?.getD (FilePath.name path)) = true

variable {tree other : FileTree} {path : String} {listed : List (List String)}

/-- There is no other order. -/
theorem DefinitionOrder.unique {others : List (List String)} (h : DefinitionOrder tree path listed)
    (h' : DefinitionOrder tree path others) : listed = others :=
  FilePath.eq_of_pairwise h.sorted h'.sorted fun parts => by rw [h.mem_iff, h'.mem_iff]

/-- A rearranged tree has its definition files in the same order. -/
theorem DefinitionOrder.rearranged (h : DefinitionOrder tree path listed)
    (hother : tree.Rearranged other) : DefinitionOrder other path listed :=
  ⟨h.sorted, fun parts => by rw [h.mem_iff, hother.hasFile_iff]⟩

/-- The name of a file below a path. -/
theorem name_below_of_hasFile {parts : List String} (hpath : path ≠ "") (hwf : tree.WellFormed)
    (hfile : tree.HasFile parts) :
    FilePath.name (FilePath.below path parts) = parts.getLast?.getD (FilePath.name path) := by
  by_cases hne : parts = []
  · subst hne
    rfl
  · rw [FilePath.name_below hpath hne (hfile.isName hwf), List.getLast?_eq_some_getLast hne]
    rfl

theorem definitionFiles_eq (tree : FileTree) (path : String) : definitionFiles tree path =
    (((tree.files []).filter fun parts =>
      isDefinitionName (FilePath.name (FilePath.below path parts))).mergeSort FilePath.le).map
        (FilePath.below path) := by
  let named (parts : List String) : List String × String := (parts, FilePath.below path parts)
  show ((((tree.files []).map named).filter fun file => isDefinitionName (FilePath.name file.2)
    ).mergeSort fun a b => FilePath.le a.1 b.1).map (·.2) = _
  rw [List.filter_map, ← List.map_mergeSort (f := named) (r := FilePath.le) fun _ _ _ _ => rfl,
    List.map_map]
  rfl

/-- **The definition files are read in their order.** -/
theorem exists_definitionOrder (hpath : path ≠ "") (hwf : tree.WellFormed) :
    ∃ listed, DefinitionOrder tree path listed ∧
      definitionFiles tree path = listed.map (FilePath.below path) := by
  refine ⟨_, ⟨FilePath.pairwise_mergeSort ((hwf.nodup_files []).filter _), fun parts => ?_⟩,
    definitionFiles_eq tree path⟩
  rw [List.mem_mergeSort, List.mem_filter, FileTree.mem_files_iff]
  constructor
  · rintro ⟨⟨parts, rfl, hfile⟩, hname⟩
    exact ⟨hfile, name_below_of_hasFile hpath hwf hfile ▸ hname⟩
  · rintro ⟨hfile, hname⟩
    refine ⟨⟨parts, rfl, hfile⟩, ?_⟩
    rwa [name_below_of_hasFile hpath hwf hfile]

/-! ## Files -/

/-- The same schema under another token. -/
def Schema.withToken (schema : Schema) (token : Nat) : Schema := { schema with token }

theorem Draft.build_eq_map (draft : Draft) (token : Nat) :
    draft.build token = (draft.build 0).map (·.withToken token) := by
  unfold Draft.build
  split
  · rfl
  · cases Draft.checkFields draft.name [] draft.fields with
    | error e => rfl
    | ok _ =>
      cases draft.chooseDisplay with
      | error e => rfl
      | ok display => rfl

theorem Definition.buildIn_eq_map (definition : Definition) (token : Nat) (disk : Disk)
    (folder : String) : definition.buildIn token disk folder =
      (definition.buildIn 0 disk folder).map (·.withToken token) := by
  unfold Definition.buildIn Definition.build
  cases definition.draft? fun file => readFor disk (FilePath.join folder file) with
  | error e => rfl
  | ok draft => exact draft.build_eq_map token

/-- **A file loads or fails whatever the token of its schema is.** -/
theorem loadFile_eq_map (token : Nat) (disk : Disk) (file : String) :
    loadFile token disk file = (loadFile 0 disk file).map (·.withToken token) := by
  unfold loadFile
  cases readFor disk file with
  | error e => rfl
  | ok text =>
    simp only [bind, Except.bind]
    cases Definition.ofYaml? text with
    | none => rfl
    | some definition => exact definition.buildIn_eq_map token disk _

/-- A file is loaded from what can be read of the disk. -/
theorem loadFile_congr {disk other : Disk} (h : ∀ file, other.read file = disk.read file)
    (token : Nat) (file : String) : loadFile token other file = loadFile token disk file := by
  have hread : readFor other = readFor disk := funext fun file => by rw [readFor, readFor, h]
  simp only [loadFile, Definition.buildIn, hread]

/-- What comes of files that are loaded one after another, under tokens that count up. -/
def outcomes (token : Nat) (disk : Disk) (files : List String) :
    List (Except SchemaError Schema) :=
  files.mapIdx fun index file => loadFile (token + index) disk file

theorem outcomes_cons (token : Nat) (disk : Disk) (file : String) (files : List String) :
    outcomes token disk (file :: files) =
      loadFile token disk file :: outcomes (token + 1) disk files := by
  simp only [outcomes, List.mapIdx_cons, Nat.add_zero, Nat.add_assoc, Nat.add_comm 1]

/-- The schemas that are loaded have tokens of their own, which count up. -/
theorem pairwise_token_outcomes (disk : Disk) : ∀ (files : List String) (token : Nat),
    (∀ schema ∈ (outcomes token disk files).filterMap Except.toOption, token ≤ schema.token) ∧
      ((outcomes token disk files).filterMap Except.toOption).Pairwise fun schema next =>
        schema.token < next.token
  | [], token => ⟨fun schema h => absurd h List.not_mem_nil, .nil⟩
  | file :: files, token => by
    obtain ⟨hle, hpairwise⟩ := pairwise_token_outcomes disk files (token + 1)
    rw [outcomes_cons, List.filterMap_cons]
    cases hload : loadFile token disk file with
    | error e => exact ⟨fun schema hmem => Nat.le_of_succ_le (hle schema hmem), hpairwise⟩
    | ok schema =>
      have htoken : schema.token = token := by
        rw [loadFile_eq_map, map_eq_ok_iff] at hload
        obtain ⟨loaded, -, rfl⟩ := hload
        rfl
      show (∀ next ∈ schema :: _, token ≤ next.token) ∧ (schema :: _).Pairwise _
      refine ⟨List.forall_mem_cons.mpr ⟨Nat.le_of_eq htoken.symm, fun next hmem =>
        Nat.le_of_succ_le (hle next hmem)⟩, List.pairwise_cons.mpr ⟨fun next hmem => ?_, hpairwise⟩⟩
      rw [htoken]
      exact hle next hmem

/-! ## Loading -/

variable {disk : Disk} {token : Nat}

/-- **Files are loaded in their order, in whatever order the folders list them.** -/
theorem loadEach_of_rearranged {disk other : Disk} (h : disk.Rearranged other)
    (hfind : disk.find? path = .ok tree) (horder : DefinitionOrder tree path listed)
    (token : Nat) : (∃ twin, other.find? path = .ok twin) ∧
      loadEach token other path = outcomes token disk (listed.map (FilePath.below path)) := by
  obtain ⟨twin, htwin, hwf, hrearranged⟩ := h.exists_twin hfind
  obtain ⟨others, hothers, hfiles⟩ :=
    exists_definitionOrder (Disk.ne_empty_of_find? hfind) (hrearranged.wellFormed hwf)
  obtain rfl : others = listed := hothers.unique (horder.rearranged hrearranged)
  refine ⟨⟨twin, htwin⟩, ?_⟩
  rw [loadEach, htwin]
  simp only [hfiles, outcomes, loadFile_congr h.read_eq]

end TagTemplates
