import TagTemplates.Proofs.Entries
import TagTemplates.Proofs.Files.Paths

/-!
# The files of a tree

A tree as a file system has it lists each of its files once, with the names that lead to it.  Where
the tree stands at a path of a disk, its files stand at the paths below this one.

* `FileTree.WellFormed`: trees as file systems have them.
* `FileTree.HasFile`, `FileTree.mem_files_iff`, `FileTree.WellFormed.nodup_files`: the files that
  are listed.
* `FileTree.walk_append`, `FileTree.HasFile.walk`: a walk in two parts, and to a file.
* `Disk.find?_below`: the files stand at their paths.
-/

namespace TagTemplates

namespace FileTree

/-- A tree as a file system has it: the entries of a folder have names, no two of them the same. -/
inductive WellFormed : FileTree → Prop where
  | file (bytes : ByteArray) : WellFormed (file bytes)
  | folder {entries : List (String × FileTree)} : (entries.map Prod.fst).Nodup →
      (∀ entry ∈ entries, FilePath.IsName entry.1) → (∀ entry ∈ entries, WellFormed entry.2) →
      WellFormed (folder entries)

/-- A file stands at a path below the tree. -/
inductive HasFile : FileTree → List String → Prop where
  | here (bytes : ByteArray) : HasFile (file bytes) []
  | entry {entries : List (String × FileTree)} {name : String} {tree : FileTree}
      {parts : List String} : (name, tree) ∈ entries → HasFile tree parts →
      HasFile (folder entries) (name :: parts)

variable {tree : FileTree} {name : String}

/-! ## The files of a tree -/

mutual

/-- The files that are listed are the files of the tree. -/
theorem mem_files_iff : ∀ {tree : FileTree} {path listed : List String},
    listed ∈ tree.files path ↔ ∃ parts, listed = path ++ parts ∧ tree.HasFile parts
  | .file bytes, path, listed => by
    rw [files, List.mem_singleton]
    constructor
    · rintro rfl
      exact ⟨[], (List.append_nil _).symm, .here bytes⟩
    · rintro ⟨parts, rfl, hfile⟩
      cases hfile
      exact List.append_nil _
  | .folder entries, path, listed => by
    rw [files, mem_filesOf_iff]
    constructor
    · rintro ⟨name, tree, parts, hmem, rfl, hfile⟩
      exact ⟨name :: parts, rfl, .entry hmem hfile⟩
    · rintro ⟨parts, rfl, hfile⟩
      cases hfile with
      | @entry _ name tree parts hmem hfile => exact ⟨name, tree, parts, hmem, rfl, hfile⟩

theorem mem_filesOf_iff : ∀ {entries : List (String × FileTree)} {path listed : List String},
    listed ∈ filesOf path entries ↔
      ∃ name tree parts, (name, tree) ∈ entries ∧ listed = path ++ name :: parts ∧
        tree.HasFile parts
  | [], path, listed => by simp [filesOf]
  | (name, tree) :: rest, path, listed => by
    rw [filesOf, List.mem_append, mem_files_iff, mem_filesOf_iff]
    constructor
    · rintro (⟨parts, rfl, hfile⟩ | ⟨name', tree', parts, hmem, rfl, hfile⟩)
      · refine ⟨name, tree, parts, List.mem_cons_self, ?_, hfile⟩
        rw [List.append_assoc]
        rfl
      · exact ⟨name', tree', parts, List.mem_cons_of_mem _ hmem, rfl, hfile⟩
    · rintro ⟨name', tree', parts, hmem, rfl, hfile⟩
      rcases List.mem_cons.mp hmem with heq | hmem
      · obtain ⟨rfl, rfl⟩ := Prod.mk.inj heq
        exact Or.inl ⟨parts, by rw [List.append_assoc]; rfl, hfile⟩
      · exact Or.inr ⟨name', tree', parts, hmem, rfl, hfile⟩

end

/-- The files of entries are listed once when those of each entry are. -/
theorem nodup_filesOf {path : List String} : ∀ {entries : List (String × FileTree)},
    (entries.map Prod.fst).Nodup →
    (∀ entry ∈ entries, (entry.2.files (path ++ [entry.1])).Nodup) → (filesOf path entries).Nodup
  | [], _, _ => List.nodup_nil
  | (name, tree) :: rest, hnames, hfiles => by
    obtain ⟨hname, hrest⟩ := List.nodup_cons.mp hnames
    obtain ⟨htree, hothers⟩ := List.forall_mem_cons.mp hfiles
    refine List.nodup_append.mpr ⟨htree, nodup_filesOf hrest hothers, ?_⟩
    -- the paths part at the name of the entry
    rintro listed hlisted _ hother rfl
    obtain ⟨parts, rfl, -⟩ := mem_files_iff.mp hlisted
    obtain ⟨name', tree', parts', hmem, heq, -⟩ := mem_filesOf_iff.mp hother
    rw [List.append_assoc] at heq
    obtain ⟨rfl, -⟩ := List.cons.inj (List.append_cancel_left heq)
    exact hname (List.mem_map.mpr ⟨_, hmem, rfl⟩)

/-- **Every file is listed once.** -/
theorem WellFormed.nodup_files (h : tree.WellFormed) : ∀ path, (tree.files path).Nodup := by
  induction h with
  | file bytes => exact fun path => List.nodup_singleton path
  | folder hnames _ _ ih =>
    exact fun path => nodup_filesOf hnames fun entry hentry => ih entry hentry (path ++ [entry.1])

/-! ## Walks -/

/-- An entry whose name is given once is the entry of its name. -/
theorem lookup_eq_some_iff {entries : List (String × FileTree)} (h : (entries.map Prod.fst).Nodup) :
    lookup name entries = some tree ↔ (name, tree) ∈ entries := find?_name_eq_some_iff h

/-- **A walk in two parts.**  Either the first part fails, and the walk with it, or it comes to a
tree below some folders, and the second part begins there. -/
theorem walk_append : ∀ (parts : List String) (above : List FileTree) (tree : FileTree),
    (∃ e, ∀ more, walk above tree (parts ++ more) = .error e) ∨
      ∃ above' found, ∀ more, walk above tree (parts ++ more) = walk above' found more
  | [], above, tree => Or.inr ⟨above, tree, fun more => rfl⟩
  | part :: rest, above, .file bytes => Or.inl ⟨.notFolder, fun more => rfl⟩
  | part :: rest, above, .folder entries => by
    simp only [List.cons_append, walk]
    by_cases hstay : (part == ".") = true
    · simp only [if_pos hstay]
      exact walk_append rest _ _
    by_cases hup : (part == "..") = true
    · simp only [if_neg hstay, if_pos hup]
      cases above with
      | nil => exact walk_append rest _ _
      | cons near far => exact walk_append rest _ _
    · simp only [if_neg hstay, if_neg hup]
      cases lookup part entries with
      | none => exact Or.inl ⟨.missing, fun more => rfl⟩
      | some next => exact walk_append rest _ _

/-- The walk to a file, whatever lies above. -/
theorem HasFile.walk {parts : List String} (h : tree.HasFile parts) (hwf : tree.WellFormed) :
    ∃ bytes, ∀ above, walk above tree parts = .ok (file bytes) := by
  induction h with
  | here bytes => exact ⟨bytes, fun above => rfl⟩
  | entry hmem _ ih =>
    cases hwf with
    | folder hnames hlegal hall =>
      obtain ⟨bytes, hwalk⟩ := ih (hall _ hmem)
      have hname := hlegal _ hmem
      refine ⟨bytes, fun above => ?_⟩
      simp only [FileTree.walk, beq_iff_eq, if_neg hname.ne_stay, if_neg hname.ne_up,
        (lookup_eq_some_iff hnames).mpr hmem]
      exact hwalk _

/-- The names that lead to a file. -/
theorem HasFile.isName {parts : List String} (h : tree.HasFile parts) (hwf : tree.WellFormed) :
    ∀ name ∈ parts, FilePath.IsName name := by
  induction h with
  | here bytes => exact fun name hname => absurd hname List.not_mem_nil
  | entry hmem _ ih =>
    cases hwf with
    | folder hnames hlegal hall =>
      exact List.forall_mem_cons.mpr ⟨hlegal _ hmem, ih (hall _ hmem)⟩

end FileTree

/-! ## Disks -/

namespace Disk

variable {disk : Disk} {path : String} {tree : FileTree}

theorem ne_empty_of_find? (hfind : disk.find? path = .ok tree) : path ≠ "" := by
  rintro rfl
  exact nomatch hfind

theorem find?_eq (hpath : path ≠ "") : disk.find? path = disk.root.walk []
    ((if FilePath.isAbsolute path then [] else disk.here) ++ FilePath.parts path) := by
  rw [Disk.find?, if_neg (by simpa using hpath)]
  cases FilePath.isAbsolute path with
  | true => rfl
  | false => rfl

/-- Where a slash at the end asks for a folder, the walk comes to the folder before. -/
theorem walk_inner {front : List String}
    (h : disk.root.walk [] (front ++ FilePath.parts path) = .ok tree) :
    ∃ above, ∀ more,
      disk.root.walk [] (front ++ (FilePath.inner path ++ more)) = tree.walk above more := by
  obtain ⟨stay, hparts, hstay⟩ := FilePath.exists_parts_eq path
  rw [hparts, ← List.append_assoc] at h
  rcases FileTree.walk_append (front ++ FilePath.inner path) [] disk.root with
    ⟨e, herror⟩ | ⟨above, found, hwalk⟩
  · exact nomatch h.symm.trans (herror stay)
  · refine ⟨above, fun more => ?_⟩
    have hfound : found.walk above stay = .ok tree := (hwalk stay).symm.trans h
    obtain rfl : found = tree := by
      rcases hstay with rfl | rfl
      · exact Except.ok.inj hfound
      · cases found with
        | file bytes => exact nomatch hfound
        | folder entries => exact Except.ok.inj hfound
    rw [← List.append_assoc]
    exact hwalk more

/-- **The files of a tree stand at the paths below its path.** -/
theorem find?_below {names : List String} (h : disk.find? path = .ok tree) (hwf : tree.WellFormed)
    (hfile : tree.HasFile names) :
    ∃ bytes, disk.find? (FilePath.below path names) = .ok (.file bytes) := by
  have hpath := ne_empty_of_find? h
  obtain ⟨bytes, hwalk⟩ := hfile.walk hwf
  refine ⟨bytes, ?_⟩
  by_cases hne : names = []
  · subst hne
    obtain rfl : tree = .file bytes := Except.ok.inj (hwalk [])
    exact h
  · have hnames := hfile.isName hwf
    rw [find?_eq hpath] at h
    obtain ⟨above, hinner⟩ := walk_inner h
    rw [find?_eq (FilePath.below_ne_empty hpath hne hnames),
      FilePath.isAbsolute_below hpath hne hnames, FilePath.parts_below hpath hne hnames, hinner]
    exact hwalk above

end Disk

end TagTemplates
