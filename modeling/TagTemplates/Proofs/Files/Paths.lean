import TagTemplates.Proofs.Text.Basic
import TagTemplates.Files.Tree

/-!
# Paths below a path

A file below a path is written with the parts that lead to it behind the path, and read again as
the parts of the path with these behind them.  Paths are sorted part by part.

* `FilePath.IsName`: the names that a folder can give to its entries.
* `FilePath.below`: the path of a file below a path.
* `FilePath.parts_below`, `FilePath.name_below`: its parts and its name.
* `FilePath.le_iff`, `FilePath.le_trans`, `FilePath.le_total`: paths are compared part by part.
* `FilePath.pairwise_mergeSort`, `FilePath.eq_of_pairwise`: sorted paths.
-/

namespace TagTemplates

namespace FilePath

/-- A name that a folder can give to an entry. -/
structure IsName (name : String) : Prop where
  ne_empty : name ≠ ""
  slash_notMem : '/' ∉ name.toList
  ne_stay : name ≠ "."
  ne_up : name ≠ ".."

instance (name : String) : Decidable (IsName name) :=
  decidable_of_iff (name ≠ "" ∧ '/' ∉ name.toList ∧ name ≠ "." ∧ name ≠ "..")
    ⟨fun ⟨hempty, hslash, hstay, hup⟩ => ⟨hempty, hslash, hstay, hup⟩,
      fun ⟨hempty, hslash, hstay, hup⟩ => ⟨hempty, hslash, hstay, hup⟩⟩

/-- The path of a file below a path. -/
def below (path : String) (parts : List String) : String :=
  if parts.isEmpty then path else join path (ofParts parts)

variable {path : String} {names : List String}

/-! ## Parts -/

/-- The parts of a path, a slash at its end apart. -/
def inner (path : String) : List String :=
  ((Text.splitChar '/' path.toList).map String.ofList).filter (!·.isEmpty)

/-- A slash at the end asks for a folder. -/
theorem exists_parts_eq (path : String) :
    ∃ stay, parts path = inner path ++ stay ∧ (stay = [] ∨ stay = ["."]) := by
  rw [parts]
  split
  · exact ⟨["."], rfl, Or.inr rfl⟩
  · exact ⟨[], (List.append_nil _).symm, Or.inl rfl⟩

theorem toList_ofParts (names : List String) :
    (ofParts names).toList = Text.joinWith ['/'] (names.map String.toList) :=
  String.toList_ofList

/-- Names are cut apart at the slashes between them. -/
theorem map_splitChar_ofParts (hne : names ≠ []) (hnames : ∀ name ∈ names, IsName name) :
    (Text.splitChar '/' (ofParts names).toList).map String.ofList = names := by
  have hslash : ∀ piece ∈ names.map String.toList, '/' ∉ piece :=
    List.forall_mem_map.mpr fun name hname => (hnames name hname).slash_notMem
  rw [toList_ofParts, Text.splitChar_joinWith (by simpa using hne) hslash, List.map_map]
  exact (List.map_congr_left fun name _ => String.ofList_toList).trans (List.map_id names)

/-- The first of several names begins no absolute path. -/
theorem isAbsolute_ofParts (hnames : ∀ name ∈ names, IsName name) :
    isAbsolute (ofParts names) = false := by
  cases names with
  | nil => rfl
  | cons name rest =>
    obtain ⟨hempty, hslash, -, -⟩ := hnames name List.mem_cons_self
    obtain ⟨c, cs, hname⟩ : ∃ c cs, name.toList = c :: cs :=
      List.exists_cons_of_ne_nil fun hnil => hempty (String.toList_eq_nil_iff.mp hnil)
    have hhead : (ofParts (name :: rest)).toList.head? = some c := by
      rw [toList_ofParts]
      cases rest with
      | nil => simp [Text.joinWith, hname]
      | cons next rest => simp [Text.joinWith, hname]
    have hc : c ≠ '/' := by
      rintro rfl
      exact hslash (hname ▸ List.mem_cons_self)
    rw [isAbsolute, hhead]
    simpa using hc

/-- A file below a path is written behind a slash, which may be one at the end of the path. -/
theorem exists_toList_below (hpath : path ≠ "") (hne : names ≠ [])
    (hnames : ∀ name ∈ names, IsName name) :
    path.toList <+: (below path names).toList ∧
      ∃ front, (below path names).toList = front ++ '/' :: (ofParts names).toList ∧
        inner path = ((Text.splitChar '/' front).map String.ofList).filter (!·.isEmpty) := by
  have hempty : path.isEmpty = false := by simpa using hpath
  rw [below, if_neg (by simpa using hne), join, isAbsolute_ofParts hnames, hempty, if_neg (by simp)]
  split
  · rename_i hslash
    obtain ⟨front, hfront⟩ := List.getLast?_eq_some_iff.mp (beq_iff_eq.mp hslash)
    refine ⟨⟨_, String.toList_append.symm⟩, front, ?_, ?_⟩
    · rw [String.toList_append, hfront, List.append_assoc]
      rfl
    · rw [inner, hfront, Text.splitChar_append, List.map_append, List.filter_append]
      exact List.append_nil _
  · have hbelow : (path ++ "/" ++ ofParts names).toList =
        path.toList ++ '/' :: (ofParts names).toList := by
      rw [String.toList_append, String.toList_append, List.append_assoc]
      rfl
    exact ⟨⟨_, hbelow.symm⟩, path.toList, hbelow, rfl⟩

theorem getLast?_append_names (hne : names ≠ []) (front : List String) :
    (front ++ names).getLast? = some (names.getLast hne) := by
  rw [List.getLast?_append, List.getLast?_eq_some_getLast hne]
  rfl

/-- **The parts of a file below a path** are those of the path and those that lead to the file. -/
theorem parts_below (hpath : path ≠ "") (hne : names ≠ []) (hnames : ∀ name ∈ names, IsName name) :
    parts (below path names) = inner path ++ names := by
  obtain ⟨-, front, hbelow, hinner⟩ := exists_toList_below hpath hne hnames
  have hpieces : (Text.splitChar '/' (below path names).toList).map String.ofList =
      (Text.splitChar '/' front).map String.ofList ++ names := by
    rw [hbelow, Text.splitChar_append, List.map_append, map_splitChar_ofParts hne hnames]
  have hkept : names.filter (!·.isEmpty) = names := by
    refine List.filter_eq_self.mpr fun name hname => ?_
    simpa using (hnames name hname).ne_empty
  rw [parts, hpieces]
  simp only [List.filter_append, hkept, ← hinner]
  refine if_neg fun hslash => ?_
  have hlast : names.getLast hne = "" := by
    have hend := (Bool.and_eq_true_iff.mp hslash).2
    rw [getLast?_append_names hne] at hend
    simpa using hend
  exact (hnames _ (List.getLast_mem hne)).ne_empty hlast

/-- The name of a file below a path is the last of the names that lead to it. -/
theorem name_below (hpath : path ≠ "") (hne : names ≠ []) (hnames : ∀ name ∈ names, IsName name) :
    name (below path names) = names.getLast hne := by
  have hkept : names.filter (· != ".") = names := by
    refine List.filter_eq_self.mpr fun name hname => ?_
    simpa using (hnames name hname).ne_stay
  rw [name, parts_below hpath hne hnames, List.filter_append, hkept, getLast?_append_names hne]
  rfl

/-- A file below an absolute path has an absolute path, and the other way round. -/
theorem isAbsolute_below (hpath : path ≠ "") (hne : names ≠ [])
    (hnames : ∀ name ∈ names, IsName name) : isAbsolute (below path names) = isAbsolute path := by
  obtain ⟨⟨more, hmore⟩, -⟩ := exists_toList_below hpath hne hnames
  obtain ⟨c, cs, hcs⟩ : ∃ c cs, path.toList = c :: cs :=
    List.exists_cons_of_ne_nil fun hnil => hpath (String.toList_eq_nil_iff.mp hnil)
  rw [isAbsolute, isAbsolute, ← hmore, hcs]
  rfl

theorem below_ne_empty (hpath : path ≠ "") (hne : names ≠ [])
    (hnames : ∀ name ∈ names, IsName name) : below path names ≠ "" := by
  obtain ⟨⟨more, hmore⟩, -⟩ := exists_toList_below hpath hne hnames
  intro hempty
  rw [hempty] at hmore
  exact hpath (String.toList_eq_nil_iff.mp (List.append_eq_nil_iff.mp hmore).1)

/-! ## The order of paths -/

theorem le_iff : ∀ {as bs : List String}, le as bs = true ↔ as = bs ∨ as < bs
  | [], [] => by simp [le]
  | [], b :: bs => by simp [le]
  | a :: as, [] => by simp [le]
  | a :: as, b :: bs => by
    rw [le, List.cons_lt_cons_iff, List.cons.injEq]
    by_cases hab : a = b
    · subst hab
      rw [if_pos rfl, le_iff]
      simp
    · rw [if_neg hab]
      simp [hab]

theorem le_trans {as bs cs : List String} (h : le as bs = true) (h' : le bs cs = true) :
    le as cs = true := by
  rw [le_iff] at h h' ⊢
  rcases h with rfl | h
  · exact h'
  · rcases h' with rfl | h'
    · exact Or.inr h
    · exact Or.inr (List.lt_trans h h')

theorem le_total : ∀ as bs : List String, le as bs = true ∨ le bs as = true
  | [], bs => Or.inl rfl
  | a :: as, [] => Or.inr rfl
  | a :: as, b :: bs => by
    rw [le, le]
    by_cases hab : a = b
    · subst hab
      rw [if_pos rfl, if_pos rfl]
      exact le_total as bs
    · rw [if_neg hab, if_neg fun hba => hab hba.symm]
      rw [decide_eq_true_iff, decide_eq_true_iff]
      by_cases hlt : a < b
      · exact Or.inl hlt
      · refine Or.inr (Decidable.byContradiction fun hgt => ?_)
        exact hab (Std.Trichotomous.trichotomous a b hlt hgt)

/-- Paths that are sorted go up, if no path is given twice. -/
theorem pairwise_mergeSort {paths : List (List String)} (h : paths.Nodup) :
    (paths.mergeSort le).Pairwise (· < ·) := by
  have htotal : ∀ as bs : List String, (le as bs || le bs as) = true :=
    fun as bs => Bool.or_eq_true_iff.mpr (le_total as bs)
  have htrans : ∀ as bs cs : List String, le as bs = true → le bs cs = true → le as cs = true :=
    fun _ _ _ => le_trans
  have hsorted := List.pairwise_mergeSort htrans htotal paths
  have hnodup : (paths.mergeSort le).Nodup := (List.mergeSort_perm paths le).nodup_iff.mpr h
  exact (hsorted.and hnodup).imp fun ⟨hle, hne⟩ => (le_iff.mp hle).resolve_left hne

/-- Paths that go up are told by which paths they are. -/
theorem eq_of_pairwise {paths others : List (List String)} (h : paths.Pairwise (· < ·))
    (hothers : others.Pairwise (· < ·)) (hmem : ∀ path, path ∈ paths ↔ path ∈ others) :
    paths = others := by
  have hnodup : ∀ {paths : List (List String)}, paths.Pairwise (· < ·) → paths.Nodup := by
    intro paths hsorted
    refine hsorted.imp fun {as bs} hlt heq => ?_
    subst heq
    exact List.lt_irrefl as hlt
  have hperm := (List.perm_ext_iff_of_nodup (hnodup h) (hnodup hothers)).mpr hmem
  exact hperm.eq_of_pairwise (fun _ _ _ _ hlt hgt => absurd hgt (List.lt_asymm hlt)) h hothers

end FilePath

end TagTemplates
