import Mathlib.Data.List.Basic
import TagTemplates.Proofs.Liquid.ReadBack
import TagTemplates.Proofs.Template.Scanning
import TagTemplates.Template.Fallback

/-!
# Paths and their written forms

A path is written in two ways: as an author writes it, with indices that count from one, and as the
variable expression that a template engine evaluates.  Every path that a tag can be read as comes
back from the first, whichever reader it is given to, and no two such paths share the second.

* `isFoldedNameChar`, `Step.WellFormed`, `Path.WellFormed`: what readers hand out.
* `wellFormed_iff_exists_readTag`: exactly these paths are read from tags.
* `readTag_tag_of_wellFormed`, `read_source`, `readPartial_source`: the three readers.
* `quoteLiteral_tag`: a tag can stand in quotes.
* `Path.WellFormed.expression_inj`: an expression belongs to one path only.
* `source_round_trip`: all of it, for paths of any length.
-/

namespace TagTemplates

/-! ## Folded names -/

/-- The characters of names as they are looked up: without capitals. -/
def isFoldedNameChar (c : Char) : Bool := c.isLower || c.isDigit || c == '_'

/-- The largest index, counted from zero. -/
def largestIndex : Nat := 4294967294

theorem isFoldedNameChar_iff (c : Char) : isFoldedNameChar c = true ↔
    97 ≤ c.toNat ∧ c.toNat ≤ 122 ∨ 48 ≤ c.toNat ∧ c.toNat ≤ 57 ∨ c.toNat = 95 := by
  have hunder : c = '_' ↔ c.toNat = 95 := Char.toNat_inj.symm
  unfold isFoldedNameChar Char.isLower Char.isDigit
  simp only [Bool.or_eq_true, Bool.and_eq_true, decide_eq_true_eq, beq_iff_eq, hunder,
    UInt32.le_iff_toNat_le, ge_iff_le]
  show (97 ≤ c.toNat ∧ c.toNat ≤ 122 ∨ 48 ≤ c.toNat ∧ c.toNat ≤ 57) ∨ c.toNat = 95 ↔ _
  omega

theorem isNameChar_of_isFoldedNameChar {c : Char} (h : isFoldedNameChar c = true) :
    Text.isNameChar c = true := by
  rw [isFoldedNameChar_iff] at h
  rw [Text.isNameChar_iff]
  omega

/-- Folding leaves a folded character alone. -/
theorem toLower_of_isFoldedNameChar {c : Char} (h : isFoldedNameChar c = true) : c.toLower = c := by
  rw [isFoldedNameChar_iff] at h
  apply Char.toNat_inj.mp
  rw [Text.toNat_toLower, if_neg (by omega)]

/-- Folding makes a folded character of every name character. -/
theorem isFoldedNameChar_toLower {c : Char} (h : Text.isNameChar c = true) :
    isFoldedNameChar c.toLower = true := by
  rw [Text.isNameChar_iff] at h
  rw [isFoldedNameChar_iff, Text.toNat_toLower]
  split <;> omega

/-! ## Steps and paths as they are read -/

/-- A step that a reader hands out: a folded name that is not empty, and an index that can be
written. -/
structure Step.WellFormed (s : Step) : Prop where
  name : Run isFoldedNameChar s.name.toList
  index : ∀ i, s.index = some i → i ≤ largestIndex

/-- A path that a reader hands out. -/
def Path.WellFormed (path : Path) : Prop := ∀ s ∈ path.steps, s.WellFormed

instance : DecidablePred Step.WellFormed := fun s =>
  decidable_of_iff ((s.name.toList ≠ [] ∧ s.name.toList.all isFoldedNameChar = true) ∧
    ∀ i ∈ s.index, i ≤ largestIndex) <| by
      rw [List.all_eq_true]
      exact ⟨fun h => ⟨⟨h.1.1, h.1.2⟩, h.2⟩, fun h => ⟨⟨h.name.ne_nil, h.name.all⟩, h.index⟩⟩

instance : DecidablePred Path.WellFormed := fun path =>
  inferInstanceAs (Decidable (∀ s ∈ path.steps, s.WellFormed))

variable {s : Step} {path : Path} {cs written : List Char}

theorem Step.WellFormed.run_name (h : s.WellFormed) : Run Text.isNameChar s.name.toList :=
  ⟨h.name.ne_nil, fun c hc => isNameChar_of_isFoldedNameChar (h.name.all c hc)⟩

theorem Step.WellFormed.fold_name (h : s.WellFormed) : Text.fold s.name = s.name := by
  have hall : ∀ c ∈ s.name.toList, c.toLower = id c :=
    fun c hc => toLower_of_isFoldedNameChar (h.name.all c hc)
  rw [← String.toList_inj, Text.toList_fold, Text.foldChars, List.map_congr_left hall, List.map_id]

/-- A well-formed step is spelled as it is written. -/
theorem Step.WellFormed.spelledBy_source (h : s.WellFormed) : s.SpelledBy s.source :=
  Step.spelledBy_source h.run_name h.fold_name fun i hi => Nat.lt_succ_of_le (h.index i hi)

/-- A step that has a spelling is well-formed. -/
theorem Step.SpelledBy.wellFormed (h : s.SpelledBy written) : s.WellFormed := by
  refine ⟨⟨h.run_name.ne_nil, ?_⟩, fun i hi => Nat.le_of_lt_succ (h.index_lt i hi)⟩
  obtain ⟨hname, -⟩ := h
  rw [Step.make, Text.toList_fold, String.toList_ofList, Text.foldChars]
  intro c hc
  obtain ⟨d, hd, rfl⟩ := List.mem_map.mp hc
  exact isFoldedNameChar_toLower (hname.all d hd)

/-! ## The source form -/

theorem Path.WellFormed.spelledBy_source (h : path.WellFormed) : path.SpelledBy path.source :=
  spellsSteps_stepsSource fun s hs => (h s hs).spelledBy_source

theorem readTag_tag_of_wellFormed (h : path.WellFormed) : Path.readTag path.tag = .ok path :=
  readTag_tag fun s hs => (h s hs).spelledBy_source

theorem read_source (h : path.WellFormed) : Path.read path.source = .ok path :=
  read_eq_ok_iff.mpr <| readPath_eq_ok_iff.mpr
    ⟨[], path.source, [], by simp, blanks_nil, blanks_nil, h.spelledBy_source⟩

theorem readPartial_source (h : path.WellFormed) : readPartial path.source = path.steps :=
  readPartial_of_readPath (read_eq_ok_iff.mp (read_source h))

/-- **The well-formed paths are those that are read from tags.** -/
theorem wellFormed_iff_exists_readTag : path.WellFormed ↔ ∃ cs, Path.readTag cs = .ok path := by
  constructor
  · exact fun h => ⟨path.tag, readTag_tag_of_wellFormed h⟩
  · rintro ⟨cs, hread⟩ s hs
    obtain ⟨written, hspelled⟩ := exists_spelledBy_of_readTag hread s hs
    exact hspelled.wellFormed

/-- **A tag can stand in quotes**, for there are no quotes in it. -/
theorem quoteLiteral_tag (h : path.WellFormed) :
    quoteLiteral path.tagString = .ok ('\'' :: path.tag ++ ['\'']) := by
  have hsource : SpellsSteps path.root path.rest path.source := h.spelledBy_source
  have hquote : '\'' ∉ path.tag := by
    rw [Path.tag, List.cons_append, List.mem_cons, List.mem_append, List.mem_singleton]
    rintro (hbrace | hmem | hbrace)
    · exact absurd hbrace (by decide)
    · exact absurd (hsource.all_isTagChar '\'' hmem) (by decide)
    · exact absurd hbrace (by decide)
  rw [quoteLiteral, Path.tagString, String.toList_ofList, if_pos hquote]

/-! ## The variable expression -/

/-- The indices of two steps are the same when they are written in the same way. -/
theorem bracketSource_inj {i j : Option Nat}
    (h : Liquid.bracketSource i = Liquid.bracketSource j) : i = j := by
  cases i with
  | none =>
    cases j with
    | none => rfl
    | some j => exact absurd h (by simp [Liquid.bracketSource])
  | some i =>
    cases j with
    | none => exact absurd h (by simp [Liquid.bracketSource])
    | some j =>
      have hdigits : Text.natDigits i = Text.natDigits j := by
        simpa [Liquid.bracketSource] using h
      rw [← Text.digitsValue_natDigits i, hdigits, Text.digitsValue_natDigits]

/-- The name of a step goes as far as its name characters. -/
theorem Step.WellFormed.takeWhile_expression (h : s.WellFormed) :
    s.expression.takeWhile Text.isNameChar = s.name.toList ∧
      s.expression.dropWhile Text.isNameChar = Liquid.bracketSource s.index := by
  have hstop : (Liquid.bracketSource s.index).head?.any Text.isNameChar = false := by
    cases s.index with
    | none => rfl
    | some i => rfl
  rw [Liquid.expression_eq]
  exact ⟨Text.takeWhile_append_of_head? h.run_name.all hstop,
    Text.dropWhile_append_of_head? h.run_name.all hstop⟩

theorem Step.WellFormed.expression_inj {t : Step} (hs : s.WellFormed) (ht : t.WellFormed)
    (h : s.expression = t.expression) : s = t := by
  obtain ⟨hname, hindex⟩ := hs.takeWhile_expression
  obtain ⟨hname', hindex'⟩ := ht.takeWhile_expression
  have hnames : s.name = t.name := by
    rw [← String.toList_inj, ← hname, ← hname', h]
  have hindices : s.index = t.index := by
    refine bracketSource_inj ?_
    rw [← hindex, ← hindex', h]
  obtain ⟨name, index⟩ := s
  obtain ⟨name', index'⟩ := t
  exact congr (congrArg Step.mk hnames) hindices

/-- No dot stands inside the expression of a step. -/
theorem Step.WellFormed.dot_notMem_expression (h : s.WellFormed) : '.' ∉ s.expression := by
  rw [Liquid.expression_eq, List.mem_append]
  rintro (hmem | hmem)
  · exact absurd (h.run_name.all '.' hmem) (by decide)
  · cases hi : s.index with
    | none => simp [hi, Liquid.bracketSource] at hmem
    | some i =>
      have hdigit : '.' ∈ Text.natDigits i := by simpa [hi, Liquid.bracketSource] using hmem
      exact absurd (Text.isDigit_of_mem_natDigits hdigit) (by decide)

theorem joinWith_eq_intercalate (sep : List Char) : ∀ pieces : List (List Char),
    Text.joinWith sep pieces = sep.intercalate pieces
  | [] => rfl
  | [a] => by rw [Text.joinWith, List.intercalate_singleton]
  | a :: b :: rest => by
    rw [Text.joinWith, joinWith_eq_intercalate sep (b :: rest), List.intercalate_cons_cons]

/-- The expressions of the steps are found again between the dots. -/
theorem Path.WellFormed.splitOn_expression (h : path.WellFormed) :
    path.expression.splitOn '.' = path.steps.map Step.expression := by
  rw [Path.expression, joinWith_eq_intercalate]
  refine List.splitOn_intercalate '.' (fun piece hpiece => ?_) (by simp [Path.steps])
  obtain ⟨s, hs, rfl⟩ := List.mem_map.mp hpiece
  exact (h s hs).dot_notMem_expression

/-- Steps that are written alike in an expression are the same steps. -/
theorem steps_eq_of_map_expression : ∀ {steps others : List Step},
    (∀ s ∈ steps, s.WellFormed) → (∀ s ∈ others, s.WellFormed) →
      steps.map Step.expression = others.map Step.expression → steps = others
  | [], [], _, _, _ => rfl
  | [], _ :: _, _, _, h => absurd h (by simp)
  | _ :: _, [], _, _, h => absurd h (by simp)
  | s :: steps, t :: others, hsteps, hothers, h => by
    obtain ⟨hs, hsteps⟩ := List.forall_mem_cons.mp hsteps
    obtain ⟨ht, hothers⟩ := List.forall_mem_cons.mp hothers
    obtain ⟨hfirst, hrest⟩ := List.cons.inj h
    rw [hs.expression_inj ht hfirst, steps_eq_of_map_expression hsteps hothers hrest]

/-- **An expression belongs to one path only.** -/
theorem Path.WellFormed.expression_inj {other : Path} (h : path.WellFormed)
    (hother : other.WellFormed) (heq : path.expression = other.expression) : path = other := by
  have hmap : path.steps.map Step.expression = other.steps.map Step.expression := by
    rw [← h.splitOn_expression, ← hother.splitOn_expression, heq]
  have hsteps : path.steps = other.steps := steps_eq_of_map_expression h hother hmap
  exact Option.some_inj.mp (congrArg Path.ofSteps? hsteps)

/-! ## Round trips -/

/-- **Written forms round-trip.**  The paths that tags are read as are the well-formed ones, of any
length.  Each of them is read back from its tag and from its source form, strictly and leniently,
its tag is scanned as that one tag, and its expression is that of no other path.  So a tag that is
shown in place of what it stands for can be quoted, and it is read as the path of the tag. -/
theorem source_round_trip (path : Path) :
    (path.WellFormed ↔ ∃ cs, Path.readTag cs = .ok path) ∧
    (path.WellFormed →
      Path.readTag path.tag = .ok path ∧ Path.read path.source = .ok path ∧
        readPartial path.source = path.steps ∧ scan path.tag = .ok [.tag path path.tag] ∧
        ∀ other : Path, other.WellFormed → path.expression = other.expression → path = other) ∧
    ∀ template segments source, scan template = .ok segments → Segment.tag path source ∈ segments →
      quoteLiteral (Fallback.echo.resolve path) = .ok ('\'' :: path.tag ++ ['\'']) ∧
        Path.readTag (Fallback.echo.resolve path).toList = .ok path := by
  refine ⟨wellFormed_iff_exists_readTag, fun h => ?_, fun template segments source hscan hmem => ?_⟩
  · have hread := readTag_tag_of_wellFormed h
    exact ⟨hread, read_source h, readPartial_source h, scan_of_readTag hread,
      fun other hother heq => h.expression_inj hother heq⟩
  · obtain ⟨hcut, -⟩ := cutOf_of_scanSegments template (scan_eq_ok_iff.mp hscan)
    have h : path.WellFormed := wellFormed_iff_exists_readTag.mpr ⟨source, hcut.tag _ _ hmem⟩
    have hecho : Fallback.echo.resolve path = path.tagString := rfl
    rw [hecho, quoteLiteral_tag h, Path.tagString, String.toList_ofList]
    exact ⟨rfl, readTag_tag_of_wellFormed h⟩

/-- A name may begin with a digit, and the largest index is written with one more. -/
theorem source_round_trip_of_largest :
    let path : Path := ⟨⟨"4_dogs", some 4294967294⟩, [⟨"12", none⟩, ⟨"name", some 0⟩]⟩
    path.WellFormed ∧ path.tag = "\x7b4_dogs:4294967295.12.name:1\x7d".toList ∧
      Path.readTag path.tag = .ok path ∧ readPartial path.source = path.steps ∧
      scan path.tag = .ok [.tag path path.tag] ∧
      Path.readTag (Fallback.echo.resolve path).toList = .ok path := by
  intro path
  have h : path.WellFormed := by decide +kernel
  obtain ⟨-, hround, hecho⟩ := source_round_trip path
  obtain ⟨htag, -, hpartial, hscan, -⟩ := hround h
  exact ⟨h, by decide +kernel, htag, hpartial, hscan,
    (hecho path.tag _ path.tag hscan (List.mem_singleton.mpr rfl)).2⟩

end TagTemplates
