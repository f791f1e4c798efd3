import Mathlib.Data.Option.Basic
import TagTemplates.Proofs.Files.Tree

/-!
# Folders in another order

A folder lists its entries in some order, and no two systems need to agree on it.  Since no folder
has two entries of one name, the order makes no difference to what stands at a path, to the text of
a file, or to the files that a tree has; only the order in which these are listed follows it.

* `FileTree.Rearranged`: the same tree, with the entries of its folders in another order.
* `FileTree.Rearranged.alike`, `Rearranged.hasFile_iff`: what a rearranged tree has.
* `FileTree.walk_twin`: walks in the two trees.
* `Disk.Rearranged`, with `find?` and `read_eq`: the same for disks.
-/

namespace TagTemplates

namespace FileTree

/-- The same tree, with the entries of its folders in another order. -/
inductive Rearranged : FileTree → FileTree → Prop where
  | refl (tree : FileTree) : Rearranged tree tree
  | trans {first middle last : FileTree} : Rearranged first middle → Rearranged middle last →
      Rearranged first last
  /-- The entries of the folder itself. -/
  | entries {entries others : List (String × FileTree)} : entries.Perm others →
      Rearranged (folder entries) (folder others)
  /-- The entries of a folder inside of it. -/
  | inside (front behind : List (String × FileTree)) (name : String) {tree other : FileTree} :
      Rearranged tree other →
      Rearranged (folder (front ++ (name, tree) :: behind))
        (folder (front ++ (name, other) :: behind))

variable {tree other : FileTree} {entries : List (String × FileTree)} {name : String}

/-! ## Entries -/

theorem lookup_append_cons (front behind : List (String × FileTree)) (entry : String × FileTree) :
    lookup name (front ++ entry :: behind) =
      (lookup name front).or (if entry.1 = name then some entry.2 else lookup name behind) := by
  rw [lookup, List.find?_append, lookup]
  cases front.find? fun e => e.1 == name with
  | some found => rfl
  | none =>
    by_cases hname : entry.1 = name
    · simp [hname]
    · simp [hname, lookup]

/-! ## Rearranged trees -/

/-- Two trees that are files alike, or folders whose entries are rearranged name by name. -/
inductive Alike : FileTree → FileTree → Prop where
  | file (bytes : ByteArray) : Alike (file bytes) (file bytes)
  | folder {entries others : List (String × FileTree)} :
      (∀ name, Option.Rel Rearranged (lookup name entries) (lookup name others)) →
      Alike (folder entries) (folder others)

theorem rel_refl (found : Option FileTree) : Option.Rel Rearranged found found := by
  cases found with
  | none => exact .none
  | some tree => exact .some (.refl tree)

theorem rel_trans {first middle last : Option FileTree} (h : Option.Rel Rearranged first middle)
    (h' : Option.Rel Rearranged middle last) : Option.Rel Rearranged first last := by
  cases h with
  | none => exact h'
  | some hfirst =>
    cases h' with
    | some hlast => exact .some (hfirst.trans hlast)

/-- A rearranged tree is one that a file system has. -/
theorem Rearranged.wellFormed (h : tree.Rearranged other) :
    tree.WellFormed → other.WellFormed := by
  induction h with
  | refl tree => exact id
  | trans _ _ ihfirst ihlast => exact fun hwf => ihlast (ihfirst hwf)
  | entries hperm =>
    rintro (_ | ⟨hnames, hlegal, hall⟩)
    exact .folder ((hperm.map Prod.fst).nodup_iff.mp hnames)
      (fun entry hentry => hlegal entry (hperm.mem_iff.mpr hentry))
      fun entry hentry => hall entry (hperm.mem_iff.mpr hentry)
  | @inside front behind name tree other _ ih =>
    rintro (_ | ⟨hnames, hlegal, hall⟩)
    simp only [List.forall_mem_append, List.forall_mem_cons] at hlegal hall
    refine .folder ?_ ?_ ?_
    · rwa [List.map_append, List.map_cons] at hnames ⊢
    · simpa only [List.forall_mem_append, List.forall_mem_cons] using hlegal
    · obtain ⟨hfront, htree, hbehind⟩ := hall
      simpa only [List.forall_mem_append, List.forall_mem_cons] using ⟨hfront, ih htree, hbehind⟩

/-- **What a rearranged tree is**: the same file, or a folder in which every name has a rearranged
entry. -/
theorem Rearranged.alike (h : tree.Rearranged other) : tree.WellFormed → tree.Alike other := by
  induction h with
  | refl tree =>
    intro _
    cases tree with
    | file bytes => exact .file bytes
    | folder entries => exact .folder fun name => rel_refl _
  | trans hfirst _ ihfirst ihlast =>
    intro hwf
    have hmiddle := ihlast (hfirst.wellFormed hwf)
    cases ihfirst hwf with
    | file bytes => exact hmiddle
    | folder hrel =>
      cases hmiddle with
      | folder hrel' => exact .folder fun name => rel_trans (hrel name) (hrel' name)
  | @entries entries others hperm =>
    rintro (_ | ⟨hnames, -, -⟩)
    refine .folder fun name => ?_
    have hlookup : lookup name entries = lookup name others := find?_name_of_perm hnames hperm name
    rw [hlookup]
    exact rel_refl _
  | @inside front behind name tree other hrearranged _ =>
    intro _
    refine .folder fun name' => ?_
    rw [lookup_append_cons, lookup_append_cons]
    cases lookup name' front with
    | some found => exact rel_refl _
    | none =>
      by_cases hname : name = name'
      · rw [Option.none_or, Option.none_or, if_pos hname, if_pos hname]
        exact .some hrearranged
      · rw [if_neg hname, if_neg hname]
        exact rel_refl _

/-- A rearranged tree has the same files. -/
theorem Rearranged.hasFile_iff (h : tree.Rearranged other) :
    ∀ parts, tree.HasFile parts ↔ other.HasFile parts := by
  have hfolder : ∀ {entries : List (String × FileTree)} {parts : List String},
      (folder entries).HasFile parts ↔
        ∃ entry ∈ entries, ∃ rest, parts = entry.1 :: rest ∧ entry.2.HasFile rest := by
    intro entries parts
    constructor
    · rintro (_ | ⟨hmem, hfile⟩)
      exact ⟨_, hmem, _, rfl, hfile⟩
    · rintro ⟨entry, hmem, rest, rfl, hfile⟩
      exact .entry hmem hfile
  induction h with
  | refl tree => exact fun parts => Iff.rfl
  | trans _ _ ihfirst ihlast => exact fun parts => (ihfirst parts).trans (ihlast parts)
  | entries hperm =>
    intro parts
    simp only [hfolder, hperm.mem_iff]
  | inside front behind name _ ih =>
    intro parts
    simp only [hfolder, List.mem_append, List.mem_cons, or_and_right, exists_or, exists_eq_left, ih]

/-- What is read of a rearranged tree is the same text. -/
theorem Rearranged.text?_eq (h : tree.Rearranged other) (hwf : tree.WellFormed) :
    other.text? = tree.text? := by
  cases h.alike hwf with
  | file bytes => rfl
  | folder _ => rfl

/-! ## Walks -/

/-- A tree as a file system has it, and the tree rearranged. -/
structure Twin (tree other : FileTree) : Prop where
  wellFormed : tree.WellFormed
  rearranged : tree.Rearranged other

theorem Twin.lookup {others : List (String × FileTree)} (h : Twin (folder entries) (folder others))
    (name : String) : Option.Rel Twin (lookup name entries) (lookup name others) := by
  obtain ⟨hwf, hrearranged⟩ := h
  cases hrearranged.alike hwf with
  | folder hlookup =>
    cases hwf with
    | folder hnames _ hall =>
      have hrel := hlookup name
      generalize hfound : FileTree.lookup name entries = found at hrel ⊢
      generalize FileTree.lookup name others = twin at hrel ⊢
      cases hrel with
      | none => exact .none
      | some hentry => exact .some ⟨hall _ ((lookup_eq_some_iff hnames).mp hfound), hentry⟩

/-- **A walk comes to the same place in a rearranged tree**, or fails in the same way.  By induction
on the path; the folders above are rearranged with the tree. -/
theorem walk_twin : ∀ (parts : List String) {above others : List FileTree} {tree other : FileTree},
    List.Forall₂ Twin above others → Twin tree other →
    (∃ e, walk above tree parts = .error e ∧ walk others other parts = .error e) ∨
      ∃ found twin, walk above tree parts = .ok found ∧ walk others other parts = .ok twin ∧
        Twin found twin
  | [], above, others, tree, other, _, htwin => Or.inr ⟨tree, other, rfl, rfl, htwin⟩
  | part :: rest, above, others, tree, other, habove, htwin => by
    cases htwin.rearranged.alike htwin.wellFormed with
    | file bytes => exact Or.inl ⟨.notFolder, rfl, rfl⟩
    | folder _ =>
      simp only [walk]
      by_cases hstay : (part == ".") = true
      · simp only [if_pos hstay]
        exact walk_twin rest habove htwin
      by_cases hup : (part == "..") = true
      · simp only [if_neg hstay, if_pos hup]
        cases habove with
        | nil => exact walk_twin rest .nil htwin
        | cons hnear hfar => exact walk_twin rest hfar hnear
      · simp only [if_neg hstay, if_neg hup]
        have hrel := htwin.lookup part
        generalize lookup part _ = next at hrel ⊢
        generalize lookup part _ = next' at hrel ⊢
        cases hrel with
        | none => exact Or.inl ⟨.missing, rfl, rfl⟩
        | some hnext => exact walk_twin rest (.cons htwin habove) hnext

end FileTree

/-! ## Disks -/

namespace Disk

/-- The same disk, with the entries of its folders in another order. -/
structure Rearranged (disk other : Disk) : Prop where
  root : FileTree.Twin disk.root other.root
  here : other.here = disk.here

variable {disk other : Disk}

/-- What stands at a path of a rearranged disk. -/
theorem Rearranged.find? (h : disk.Rearranged other) (path : String) :
    (∃ e, disk.find? path = .error e ∧ other.find? path = .error e) ∨
      ∃ tree twin, disk.find? path = .ok tree ∧ other.find? path = .ok twin ∧
        FileTree.Twin tree twin := by
  rw [Disk.find?, Disk.find?, h.here]
  split
  · exact Or.inl ⟨.missing, rfl, rfl⟩
  · exact FileTree.walk_twin _ .nil h.root

theorem Rearranged.exists_twin {path : String} {tree : FileTree} (h : disk.Rearranged other)
    (hfind : disk.find? path = .ok tree) :
    ∃ twin, other.find? path = .ok twin ∧ FileTree.Twin tree twin := by
  rcases h.find? path with ⟨e, herror, -⟩ | ⟨found, twin, hfound, hother, htwin⟩
  · exact absurd (hfind.symm.trans herror) (by simp)
  · obtain rfl : tree = found := Except.ok.inj (hfind.symm.trans hfound)
    exact ⟨twin, hother, htwin⟩

/-- The disk itself is one of its rearrangements. -/
theorem rearranged_self (hwf : disk.root.WellFormed) : disk.Rearranged disk :=
  ⟨⟨hwf, .refl _⟩, rfl⟩

/-- **A rearranged disk holds the same texts.** -/
theorem Rearranged.read_eq (h : disk.Rearranged other) (path : String) :
    other.read path = disk.read path := by
  rw [Disk.read, Disk.read]
  rcases h.find? path with ⟨e, hdisk, hother⟩ | ⟨tree, twin, hdisk, hother, htwin⟩
  · rw [hdisk, hother]
  · rw [hdisk, hother]
    exact htwin.rearranged.text?_eq htwin.wellFormed

end Disk

end TagTemplates
