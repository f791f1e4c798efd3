import Mathlib.Data.List.TakeWhile
import TagTemplates.Proofs.Tag.FirstFaults

/-!
# Faults that last

Some faults are mended by more text: at the end of a text a name or an index is still to come, and
zeros become an index with another digit behind them.  Every other fault lasts, whatever follows.  A
text without a blank in front can therefore be completed to a path exactly when its reader meets no
fault that lasts.

* `Fault.Lasting`: the faults that nothing mends.
* `readIndex_append_of_lasting`, `readStep_append_of_lasting`, `readSteps_append_of_lasting`: they
  are met again in any longer text.
* `beginsPath_iff`: the texts that can be completed to a path.
-/

namespace TagTemplates

/-- A fault that lasts whatever follows the text: something stands there, and it is not the
beginning of an index. -/
def Fault.Lasting (f : Fault) : Prop :=
  f.rest ≠ [] ∧ ¬(f.kind = .nonPositiveIndex ∧ ∀ c ∈ f.rest, c = '0')

variable {cs more : List Char} {f : Fault} {s : Step}

/-! ## Runs in a longer text -/

/-- A run that ends in a text ends there in any longer text. -/
theorem run_append {p : Char → Bool} (h : cs.dropWhile p ≠ []) (more : List Char) :
    (cs ++ more).takeWhile p = cs.takeWhile p ∧
      (cs ++ more).dropWhile p = cs.dropWhile p ++ more := by
  obtain ⟨c, rest, hrest⟩ := List.exists_cons_of_ne_nil h
  have hstop : (c :: (rest ++ more)).head?.any p = false := by
    have hhead := Text.head?_dropWhile_any p cs
    rw [hrest] at hhead
    exact hhead
  have hsplit : cs ++ more = cs.takeWhile p ++ c :: (rest ++ more) := by
    rw [← List.cons_append, ← hrest, ← List.append_assoc, List.takeWhile_append_dropWhile]
  have hrun : ∀ d ∈ cs.takeWhile p, p d = true := List.all_eq_true.mp List.all_takeWhile
  rw [hsplit, Text.takeWhile_append_of_head? hrun hstop, Text.dropWhile_append_of_head? hrun hstop,
    hrest]
  exact ⟨rfl, rfl⟩

/-- Blanks are skipped up to a character only if the text is not empty. -/
theorem ne_nil_of_skipBlanks {c : Char} {rest : List Char} (h : skipBlanks cs = c :: rest) :
    cs ≠ [] ∧ skipBlanks cs ≠ [] := by
  refine ⟨?_, h ▸ List.cons_ne_nil c rest⟩
  rintro rfl
  exact List.cons_ne_nil c rest h.symm

theorem skipBlanks_append_of_ne_nil (h : skipBlanks cs ≠ []) (more : List Char) :
    skipBlanks (cs ++ more) = skipBlanks cs ++ more := (run_append h more).2

/-! ## Indices -/

/-- An index is read from all digits, which are worth something and not too much. -/
theorem digits_of_readIndex {i : Nat} {rest : List Char} (h : readIndex cs = .ok (i, rest)) :
    rest = cs.dropWhile Char.isDigit ∧ 1 ≤ Text.digitsValue (cs.takeWhile Char.isDigit) ∧
      Text.digitsValue (cs.takeWhile Char.isDigit) ≤ maxIndex := by
  unfold readIndex at h
  simp only at h
  split at h
  · split at h
    · exact absurd h (by simp)
    · exact absurd h (by simp)
  · split at h
    · exact absurd h (by simp)
    · rename_i hmax
      split at h
      · exact absurd h (by simp)
      · rename_i hpos
        exact ⟨(Prod.mk.inj (Except.ok.inj h)).2.symm, Nat.one_le_iff_ne_zero.mpr hpos,
          Nat.le_of_not_lt hmax⟩

/-- An index cannot be read when its digits are worth nothing or too much. -/
theorem exists_error_of_readIndex_iff : (∃ f, readIndex cs = .error f) ↔
    Text.digitsValue (cs.takeWhile Char.isDigit) = 0 ∨
      maxIndex < Text.digitsValue (cs.takeWhile Char.isDigit) := by
  constructor
  · rintro ⟨f, h⟩
    by_contra hvalue
    obtain ⟨hpos, hmax⟩ := not_or.mp hvalue
    have hne : cs.takeWhile Char.isDigit ≠ [] := fun hnil => hpos (by rw [hnil]; rfl)
    have hrun : Run Char.isDigit (cs.takeWhile Char.isDigit) :=
      ⟨hne, List.all_eq_true.mp List.all_takeWhile⟩
    have hread := readIndex_append hrun (Nat.one_le_iff_ne_zero.mpr hpos) (Nat.le_of_not_lt hmax)
      (Text.head?_dropWhile_any Char.isDigit cs)
    rw [List.takeWhile_append_dropWhile, h] at hread
    exact absurd hread (by simp)
  · intro hvalue
    cases h : readIndex cs with
    | error f => exact ⟨f, rfl⟩
    | ok read =>
      obtain ⟨-, hpos, hmax⟩ := digits_of_readIndex h
      omega

/-- An index is read alike in any longer text when something follows it. -/
theorem readIndex_append_of_ok {i : Nat} {rest : List Char} (h : readIndex cs = .ok (i, rest))
    (hrest : rest ≠ []) (more : List Char) : readIndex (cs ++ more) = .ok (i, rest ++ more) := by
  obtain ⟨digits, rfl, hrun, hpos, hmax, rfl⟩ := exists_digits_of_readIndex h
  have hstop : rest.head?.any Char.isDigit = false := by
    rw [(digits_of_readIndex h).1]
    exact Text.head?_dropWhile_any Char.isDigit _
  obtain ⟨c, front, rfl⟩ := List.exists_cons_of_ne_nil hrest
  rw [List.append_assoc]
  exact readIndex_append hrun hpos hmax hstop

/-- **An index at fault stays at fault**, unless nothing but zeros stand there.  Digits behind others
do not make the value smaller. -/
theorem readIndex_append_of_lasting (h : readIndex cs = .error f) (hlasting : f.Lasting)
    (more : List Char) : ∃ g, readIndex (cs ++ more) = .error g := by
  rw [exists_error_of_readIndex_iff]
  have hrest := rest_eq_of_readIndex h
  by_cases hend : cs.dropWhile Char.isDigit = []
  · have hdigits : ∀ c ∈ cs, c.isDigit = true := List.dropWhile_eq_nil_iff.mp hend
    have htake : cs.takeWhile Char.isDigit = cs := List.takeWhile_eq_self_iff.mpr hdigits
    have hlonger : (cs ++ more).takeWhile Char.isDigit = cs ++ more.takeWhile Char.isDigit :=
      List.takeWhile_append_of_pos hdigits
    have hvalue := exists_error_of_readIndex_iff.mp ⟨f, h⟩
    rw [htake] at hvalue
    rcases hvalue with hzero | hlarge
    · -- all of the text is zeros, so the fault does not last
      have hzeros := eq_zero_of_digitsValue_eq_zero hdigits hzero
      have hne : ¬cs.isEmpty = true := by
        rw [← hrest]
        simpa using hlasting.1
      have hkind : f.kind = .nonPositiveIndex := by
        unfold readIndex at h
        simp only [htake] at h
        rw [if_neg hne, if_neg (by omega), if_pos hzero] at h
        exact (congrArg Fault.kind (Except.error.inj h)).symm
      exact absurd ⟨hkind, hrest ▸ hzeros⟩ hlasting.2
    · rw [hlonger]
      exact Or.inr (Nat.lt_of_lt_of_le hlarge (digitsValue_le_append cs _))
  · rw [(run_append hend more).1]
    exact exists_error_of_readIndex_iff.mp ⟨f, h⟩

/-- The index of a step at fault stays at fault. -/
theorem readIndexPart_append_of_lasting (h : readIndexPart cs = .error f) (hlasting : f.Lasting)
    (more : List Char) : ∃ g, readIndexPart (cs ++ more) = .error g := by
  unfold readIndexPart at h
  split at h
  · rename_i after hcolon
    split at h
    · rename_i g hread
      obtain rfl := Except.error.inj h
      have hne : skipBlanks after ≠ [] := by
        rw [← rest_eq_of_readIndex hread]
        exact hlasting.1
      obtain ⟨g', hg'⟩ := readIndex_append_of_lasting hread hlasting more
      refine ⟨g', ?_⟩
      rw [readIndexPart, skipBlanks_append_of_ne_nil (by rw [hcolon]; simp) more, hcolon,
        List.cons_append]
      simp only [skipBlanks_append_of_ne_nil hne more, hg']
    · exact absurd h (by simp)
  · exact absurd h (by simp)

/-- An index that something follows is read alike in any longer text. -/
theorem readIndexPart_append {index : Option Nat} {rest : List Char}
    (h : readIndexPart cs = .ok (index, rest)) (hrest : rest ≠ []) (more : List Char) :
    readIndexPart (cs ++ more) = .ok (index, rest ++ more) := by
  unfold readIndexPart at h
  split at h
  · rename_i after hcolon
    split at h
    · exact absurd h (by simp)
    · rename_i i rest' hread
      obtain ⟨rfl, rfl⟩ := Prod.mk.inj (Except.ok.inj h)
      have hne : skipBlanks after ≠ [] := by
        obtain ⟨digits, hdigits, hrun, -⟩ := exists_digits_of_readIndex hread
        rw [hdigits]
        exact List.append_ne_nil_of_left_ne_nil hrun.ne_nil _
      rw [readIndexPart, skipBlanks_append_of_ne_nil (by rw [hcolon]; simp) more, hcolon,
        List.cons_append]
      simp only [skipBlanks_append_of_ne_nil hne more, readIndex_append_of_ok hread hrest more]
  · rename_i hother
    obtain ⟨rfl, rfl⟩ := Prod.mk.inj (Except.ok.inj h)
    rw [readIndexPart, skipBlanks_append_of_ne_nil hrest more]
    split
    · rename_i after hcolon
      obtain ⟨c, front, hfront⟩ := List.exists_cons_of_ne_nil hrest
      rw [hfront, List.cons_append] at hcolon
      exact absurd ((List.cons.inj hcolon).1 ▸ hfront) (hother front)
    · rfl

/-! ## Steps -/

/-- What is kept at a fault that lasts is something. -/
theorem ne_nil_of_isSuffix {rest : List Char} (hlasting : f.Lasting) (h : f.rest <:+ rest) :
    rest ≠ [] := by
  rintro rfl
  exact hlasting.1 (List.suffix_nil.mp h)

theorem readStep_append_of_lasting (h : readStep cs = .error f) (hlasting : f.Lasting)
    (more : List Char) : ∃ g, readStep (cs ++ more) = .error g := by
  unfold readStep at h
  simp only at h
  split at h
  · rename_i hname
    obtain rfl := Except.error.inj h
    obtain ⟨c, rest, rfl⟩ := List.exists_cons_of_ne_nil hlasting.1
    have hnone : Text.isNameChar c = false := beginsIn_of_takeWhile_isEmpty hname
    have hc : ¬Text.isNameChar c = true := by rw [hnone]; simp
    refine ⟨⟨.emptyName, c :: (rest ++ more)⟩, ?_⟩
    unfold readStep
    simp only [List.cons_append, List.takeWhile_cons, if_neg hc]
    rfl
  · rename_i hname
    split at h
    · rename_i g hindex
      obtain rfl := Except.error.inj h
      have hne := ne_nil_of_isSuffix hlasting (rest_isSuffix_of_readIndexPart hindex)
      obtain ⟨g', hg'⟩ := readIndexPart_append_of_lasting hindex hlasting more
      obtain ⟨htake, hdrop⟩ := run_append hne more
      refine ⟨g', ?_⟩
      unfold readStep
      simp only [htake, hdrop, hg']
      rw [if_neg hname]
    · exact absurd h (by simp)

/-- A step that something follows is read alike in any longer text. -/
theorem readStep_append {rest : List Char} (h : readStep cs = .ok (s, rest)) (hrest : rest ≠ [])
    (more : List Char) : readStep (cs ++ more) = .ok (s, rest ++ more) := by
  unfold readStep at h
  simp only at h
  split at h
  · exact absurd h (by simp)
  · rename_i hname
    split at h
    · exact absurd h (by simp)
    · rename_i index rest' hindex
      obtain ⟨rfl, rfl⟩ := Prod.mk.inj (Except.ok.inj h)
      have hne : cs.dropWhile Text.isNameChar ≠ [] := by
        intro hnil
        have hle := readIndexPart_length_le hindex
        rw [hnil] at hle
        exact hrest (List.length_eq_zero_iff.mp (Nat.le_zero.mp hle))
      obtain ⟨htake, hdrop⟩ := run_append hne more
      unfold readStep
      simp only [htake, hdrop, readIndexPart_append hindex hrest more]
      rw [if_neg hname]

/-- **Steps at fault stay at fault.**  By induction on the recursion of the reader: every step in
front of the fault is followed by something. -/
theorem readSteps_append_of_lasting (more cs : List Char) : ∀ {f : Fault},
    readSteps cs = .error f → f.Lasting → ∃ g, readSteps (cs ++ more) = .error g := by
  fun_induction readSteps cs with
  | case1 cs g hs =>
    intro f h hlasting
    obtain rfl := Except.error.inj h
    obtain ⟨g', hg'⟩ := readStep_append_of_lasting hs hlasting more
    refine ⟨g', ?_⟩
    rw [readSteps_eq, hg']
  | case2 cs step rest hs hr =>
    intro f h
    exact absurd h (by simp)
  | case3 cs step rest hs after g hg hr ih =>
    intro f h hlasting
    obtain rfl := Except.error.inj h
    have hne := ne_nil_of_isSuffix hlasting (rest_isSuffix_of_readSteps _ hg)
    obtain ⟨hrest, hskip⟩ := ne_nil_of_skipBlanks hr
    obtain ⟨g', hg'⟩ := ih hg hlasting
    refine ⟨g', ?_⟩
    rw [readSteps_eq, readStep_append hs hrest more]
    simp only [skipBlanks_append_of_ne_nil hskip more, hr, List.cons_append, if_pos,
      skipBlanks_append_of_ne_nil hne more, hg', Except.map]
  | case4 cs step rest hs after next steps hnext hr ih =>
    intro f h
    exact absurd h (by simp)
  | case5 cs step rest hs c after hr hc =>
    intro f h hlasting
    obtain ⟨hrest, hskip⟩ := ne_nil_of_skipBlanks hr
    refine ⟨⟨.unexpected c, c :: (after ++ more)⟩, ?_⟩
    rw [readSteps_eq, readStep_append hs hrest more]
    simp only [skipBlanks_append_of_ne_nil hskip more, hr, List.cons_append, if_neg hc]

/-! ## Texts that begin a path -/

/-- Behind a path another step may follow. -/
theorem SpellsSteps.append_dot {root next : Step} {steps : List Step}
    {written gap after behind : List Char} (h : SpellsSteps root steps written)
    (hgap : Blanks gap) (hafter : Blanks after) (hnext : next.SpelledBy behind) :
    SpellsSteps root (steps ++ [next]) (written ++ (gap ++ '.' :: (after ++ behind))) := by
  induction h with
  | last hs => exact .dot hs hgap hafter (.last hnext)
  | dot hs hbefore hbehind _ ih =>
    simp only [List.append_assoc, List.cons_append]
    exact .dot hs hbefore hbehind ih

/-- **A text can be completed to a path exactly when no fault in it lasts**, if no blank stands in
front of it. -/
theorem beginsPath_iff (hbegins : Text.beginsIn Text.isBlank cs = false) :
    BeginsPath cs ↔ ∀ f, readSteps cs = .error f → ¬f.Lasting := by
  constructor
  · rintro ⟨more, root, steps, hspells⟩ f herror hlasting
    obtain ⟨g, hg⟩ := readSteps_append_of_lasting more cs herror hlasting
    have hread := readSteps_of_spelledBy hspells blanks_nil
    rw [List.append_nil, hg] at hread
    exact absurd hread (by simp)
  · intro h
    cases hread : readSteps cs with
    | ok read =>
      obtain ⟨root, steps⟩ := read
      obtain ⟨written, gap, rfl, hgap, hspells⟩ := spelledBy_of_readSteps _ hread
      refine (hspells.append_dot hgap blanks_nil spelledBy_a).beginsPath ['.', 'a'] ?_
      rw [List.append_assoc]
      rfl
    | error f =>
      obtain ⟨before, htext, -, hbeginsPath, hzeros⟩ := exists_placed_of_readSteps cs hread
      by_cases hend : f.rest = []
      · rw [htext, hend, List.append_nil]
        exact hbeginsPath
      · have hmends : f.kind = .nonPositiveIndex ∧ ∀ c ∈ f.rest, c = '0' := by
          by_contra hmore
          exact h f hread ⟨hend, hmore⟩
        rw [htext]
        exact hzeros hmends.1 f.rest hmends.2

end TagTemplates
