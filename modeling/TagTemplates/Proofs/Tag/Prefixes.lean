import TagTemplates.Proofs.Tag.Grammar

/-!
# The lenient reader and the strict one

Text that is still being typed is read as far as it goes, and a complete path is read as a whole or
not at all.  The two readers take the same steps: what is read leniently is what is read strictly
from some text in front, and nothing in front has more steps.

* `readPartialSteps_eq_nil_iff`: when nothing is read.
* `exists_spelling_of_readPartialSteps`: what is read leniently is spelled in front.
* `length_le_readPartialSteps`: whatever is spelled in front has no more steps.
* `readPartial_agrees`: both, for texts that are trimmed.
-/

namespace TagTemplates

variable {cs front : List Char} {path : Path} {root : Step} {steps : List Step}

/-! ## What is read leniently is spelled in front -/

theorem readPartialSteps_eq_nil_iff :
    readPartialSteps cs = [] ↔ cs.takeWhile Text.isNameChar = [] := by
  rw [readPartialSteps]
  split
  · next hname => exact iff_of_true rfl hname
  · next hname =>
    refine iff_of_false ?_ hname
    split
    · exact List.cons_ne_nil _ _
    · split
      · exact List.cons_ne_nil _ _
      · exact List.cons_ne_nil _ _

/-- An index that cannot be read is left out. -/
theorem readPartialSteps_of_error {f : Fault} (hname : cs.takeWhile Text.isNameChar ≠ [])
    (hindex : readIndexPart (cs.dropWhile Text.isNameChar) = .error f) :
    readPartialSteps cs = [Step.make (String.ofList (cs.takeWhile Text.isNameChar))] := by
  rw [readPartialSteps, dif_neg hname]
  split
  · rfl
  · next index rest hread => exact absurd (hread.symm.trans hindex) (by simp)

/-- The name and the index in front spell a step. -/
theorem spelledBy_of_readIndexPart {index : Option Nat} {rest : List Char}
    (hname : cs.takeWhile Text.isNameChar ≠ [])
    (hindex : readIndexPart (cs.dropWhile Text.isNameChar) = .ok (index, rest)) :
    ∃ written gap, cs = written ++ (gap ++ rest) ∧ Blanks gap ∧
      (Step.make (String.ofList (cs.takeWhile Text.isNameChar)) index).SpelledBy written := by
  refine spelledBy_of_readStep ?_
  have hne : ¬(cs.takeWhile Text.isNameChar).isEmpty = true := by simpa using hname
  simp only [readStep, hindex]
  exact if_neg hne

/-- **What is read leniently is spelled in front of the text.**  By induction on the recursion of
the reader; an index that cannot be read and a dot with no name behind it are left out. -/
theorem exists_spelling_of_readPartialSteps (cs : List Char) : ∀ {root : Step} {steps : List Step},
    readPartialSteps cs = root :: steps →
      ∃ written more, cs = written ++ more ∧ SpellsSteps root steps written := by
  fun_induction readPartialSteps cs
  case case1 cs name hn =>
    intro root steps h
    exact absurd h (by simp)
  case case2 cs name hn folded f hp =>
    intro root steps h
    obtain ⟨rfl, rfl⟩ := List.cons.inj h
    have hrun : Run Text.isNameChar name := run_takeWhile (List.isEmpty_eq_false_iff.mpr hn)
    refine ⟨name ++ [], cs.dropWhile Text.isNameChar, ?_,
      SpellsSteps.last (Step.SpelledBy.intro hrun SpellsIndex.absent)⟩
    rw [List.append_nil]
    exact List.takeWhile_append_dropWhile.symm
  case case3 cs name hn folded index rest hp more hr ih =>
    intro root steps h
    obtain ⟨rfl, htail⟩ := List.cons.inj h
    obtain ⟨first, gap, hcs, hgap, hstep⟩ := spelledBy_of_readIndexPart hn hp
    cases steps with
    | nil => exact ⟨first, gap ++ rest, hcs, SpellsSteps.last hstep⟩
    | cons next steps =>
      obtain ⟨written, left, hmore, hsteps⟩ := ih htail
      obtain ⟨before, hbefore, hrest⟩ := exists_blanks_skipBlanks rest
      obtain ⟨after, hafter, hskip⟩ := exists_blanks_skipBlanks more
      refine ⟨_, left, ?_,
        SpellsSteps.dot hstep (blanks_append.mpr ⟨hgap, hbefore⟩) hafter hsteps⟩
      rw [hcs, hrest, hr, hskip, hmore]
      simp only [List.append_assoc, List.cons_append]
  case case4 cs name hn folded index rest hp hr =>
    intro root steps h
    obtain ⟨rfl, rfl⟩ := List.cons.inj h
    obtain ⟨first, gap, hcs, -, hstep⟩ := spelledBy_of_readIndexPart hn hp
    exact ⟨first, gap ++ rest, hcs, SpellsSteps.last hstep⟩

/-! ## Nothing in front has more steps -/

/-- A step with a dot behind it is read as it is spelled. -/
theorem readPartialSteps_of_spelledBy {s : Step} {written before : List Char}
    (h : s.SpelledBy written) (hbefore : Blanks before) (more : List Char) :
    readPartialSteps (written ++ (before ++ '.' :: more)) =
      s :: readPartialSteps (skipBlanks more) := by
  have hends : EndsStep (before ++ '.' :: more) := ⟨before, _, hbefore, rfl, Or.inr rfl⟩
  obtain ⟨rest, hread, hskip⟩ := readStep_of_spelledBy h hends
  have hdot : Text.beginsIn Text.isBlank ('.' :: more) = false := rfl
  rw [skipBlanks_append hbefore, skipBlanks_eq_self hdot] at hskip
  exact (readPartialSteps_of_readStep hread).2 more hskip

/-- **Whatever is spelled in front has no more steps.**  All steps but the last are followed by a
dot in the text too, so they are read as they are spelled; the last one may be cut off within its
name or its index, but it begins where a step is read. -/
theorem length_le_readPartialSteps {written : List Char} (h : SpellsSteps root steps written)
    (more : List Char) : (root :: steps).length ≤ (readPartialSteps (written ++ more)).length := by
  induction h with
  | @last s cs hs =>
    obtain ⟨c, run, hcs, hc⟩ := (SpellsSteps.last hs).exists_cons
    refine List.length_pos_iff.mpr fun hnil => ?_
    rw [readPartialSteps_eq_nil_iff, hcs, List.cons_append, List.takeWhile_cons, if_pos hc] at hnil
    exact absurd hnil (List.cons_ne_nil _ _)
  | @dot s next steps cs before after behind hs hbefore hafter hsteps ih =>
    simp only [List.append_assoc, List.cons_append]
    rw [readPartialSteps_of_spelledBy hs hbefore, skipBlanks_append hafter,
      hsteps.skipBlanks_append, List.length_cons, List.length_cons]
    exact Nat.succ_le_succ ih

/-! ## Trimmed texts -/

/-- No blank begins a trimmed text. -/
theorem beginsIn_isSpace_trim (cs : List Char) :
    Text.beginsIn Text.isSpace (Text.trim cs) = false :=
  Text.head?_dropWhileEnd_any (Text.head?_dropWhile_any Text.isSpace cs)

/-- A path in front of a trimmed text is spelled right from the beginning. -/
theorem exists_spelling_of_readPath (hfront : front <+: Text.trim cs)
    (hread : readPath front = .ok path) :
    ∃ written more, Text.trim cs = written ++ more ∧ path.SpelledBy written := by
  obtain ⟨before, written, after, rfl, hbefore, -, hspelled⟩ := readPath_eq_ok_iff.mp hread
  obtain ⟨rest, hrest⟩ := hfront
  have hnil : before = [] := by
    cases before with
    | nil => rfl
    | cons b before =>
      have hbegins := beginsIn_isSpace_trim cs
      rw [← hrest] at hbegins
      have hspace := Text.isSpace_of_isBlank (hbefore b List.mem_cons_self)
      exact absurd (hspace.symm.trans hbegins) (by simp)
  subst hnil
  refine ⟨written, after ++ rest, ?_, hspelled⟩
  rw [← hrest, List.nil_append, List.append_assoc]

/-- A path in front of a trimmed text has no more steps than are read leniently. -/
theorem length_le_readPartial (hfront : front <+: Text.trim cs)
    (hread : readPath front = .ok path) : path.steps.length ≤ (readPartial cs).length := by
  obtain ⟨written, more, htrim, hspelled⟩ := exists_spelling_of_readPath hfront hread
  rw [readPartial, htrim]
  exact length_le_readPartialSteps hspelled more

/-- What is read leniently is read strictly in front of the trimmed text. -/
theorem exists_readPath_of_readPartial (h : readPartial cs = root :: steps) :
    ∃ front, front <+: Text.trim cs ∧ readPath front = .ok ⟨root, steps⟩ := by
  obtain ⟨written, more, htrim, hspells⟩ := exists_spelling_of_readPartialSteps _ h
  refine ⟨written, ⟨more, htrim.symm⟩, readPath_eq_ok_iff.mpr ?_⟩
  exact ⟨[], written, [], by simp, blanks_nil, blanks_nil, hspells⟩

/-- **The lenient reader and the strict one agree.**  If a trimmed text is a path, its steps are
read leniently too.  In general nothing is read exactly when no text in front is a path; otherwise
the steps that are read are those of some path in front, and no path in front has more. -/
theorem readPartial_agrees (cs : List Char) :
    (∀ path, Path.read (Text.trim cs) = .ok path → readPartial cs = path.steps) ∧
    (readPartial cs = [] ↔ ∀ front, front <+: Text.trim cs → ∀ path, Path.read front ≠ .ok path) ∧
    (readPartial cs ≠ [] → ∃ front path, front <+: Text.trim cs ∧ Path.read front = .ok path ∧
      path.steps = readPartial cs) ∧
    ∀ front path, front <+: Text.trim cs → Path.read front = .ok path →
      path.steps.length ≤ (readPartial cs).length := by
  have hexists : readPartial cs ≠ [] → ∃ front path, front <+: Text.trim cs ∧
      Path.read front = .ok path ∧ path.steps = readPartial cs := by
    intro hne
    obtain ⟨root, steps, hsteps⟩ := List.exists_cons_of_ne_nil hne
    obtain ⟨front, hfront, hread⟩ := exists_readPath_of_readPartial hsteps
    exact ⟨front, ⟨root, steps⟩, hfront, read_eq_ok_iff.mpr hread, hsteps.symm⟩
  have hlength : ∀ front path, front <+: Text.trim cs → Path.read front = .ok path →
      path.steps.length ≤ (readPartial cs).length :=
    fun front path hfront hread => length_le_readPartial hfront (read_eq_ok_iff.mp hread)
  refine ⟨fun path hread => ?_, ⟨fun hnil front hfront path hread => ?_, fun hnone => ?_⟩,
    hexists, hlength⟩
  · rw [readPartial, ← Text.trim_trim cs]
    exact readPartial_of_readPath (read_eq_ok_iff.mp hread)
  · have hle := hlength front path hfront hread
    rw [hnil] at hle
    exact absurd hle (by simp [Path.steps])
  · by_contra hne
    obtain ⟨front, path, hfront, hread, -⟩ := hexists hne
    exact hnone front hfront path hread

/-- Behind an index that is too large nothing is read, and no text in front has a second step. -/
theorem readPartial_agrees_of_large_index :
    readPartial " User:4294967296.name".toList = [⟨"user", none⟩] ∧
      (∃ front path, front <+: Text.trim " User:4294967296.name".toList ∧
        Path.read front = .ok path ∧ path.steps = [⟨"user", none⟩]) ∧
      ∀ front path, front <+: Text.trim " User:4294967296.name".toList →
        Path.read front = .ok path → path.steps.length ≤ 1 := by
  have hread : readPartial " User:4294967296.name".toList = [⟨"user", none⟩] := by decide +kernel
  obtain ⟨-, -, hexists, hlength⟩ := readPartial_agrees " User:4294967296.name".toList
  rw [hread] at hexists hlength
  exact ⟨hread, hexists (List.cons_ne_nil _ _), hlength⟩

end TagTemplates
