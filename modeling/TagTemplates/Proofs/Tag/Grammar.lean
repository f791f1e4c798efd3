import Mathlib.Data.List.Basic
import TagTemplates.Proofs.Text.Basic
import TagTemplates.Tag.Reader

/-!
# The grammar of tags

What the readers of tags accept, as a grammar: how a step and a path may be spelled, with blanks
around the separators.  The readers go from left to right and never back, so each of them is met
twice: what it accepts has a spelling, and a spelling is accepted wherever something follows it
that cannot continue it.

* `Run`, `Blanks`: runs of characters.
* `SpellsIndex`, `Step.SpelledBy`, `Path.SpelledBy`: the grammar.
* `spelledBy_of_readStep`, `spelledBy_of_readSteps`: what is read has a spelling.
* `readStep_of_spelledBy`, `readSteps_of_spelledBy`: a spelling is read.
* `readPath_eq_ok_iff`, `readTag_eq_ok_iff`: what bare paths and tags are.
* `readTag_tag`: what is written for a path is read as the path.
* `readPartial_of_readPath`: a path that is still being typed, once it is complete.
* `read_iff_spelledBy`: the readers accept exactly the grammar.
-/

namespace TagTemplates

/-! ## Runs of characters -/

/-- A nonempty run of characters of a class. -/
structure Run (p : Char → Bool) (cs : List Char) : Prop where
  ne_nil : cs ≠ []
  all : ∀ c ∈ cs, p c = true

/-- A run of blanks, perhaps an empty one. -/
def Blanks (cs : List Char) : Prop := ∀ c ∈ cs, Text.isBlank c = true

theorem blanks_nil : Blanks [] := fun _ h => absurd h List.not_mem_nil

theorem blanks_append {before after : List Char} :
    Blanks (before ++ after) ↔ Blanks before ∧ Blanks after := List.forall_mem_append

/-- Some blanks are skipped, and no blank follows them. -/
theorem exists_blanks_skipBlanks (cs : List Char) :
    ∃ gap, Blanks gap ∧ cs = gap ++ skipBlanks cs :=
  ⟨cs.takeWhile Text.isBlank, List.all_eq_true.mp List.all_takeWhile,
    List.takeWhile_append_dropWhile.symm⟩

theorem skipBlanks_append {gap : List Char} (h : Blanks gap) (rest : List Char) :
    skipBlanks (gap ++ rest) = skipBlanks rest :=
  List.dropWhile_append_of_pos h

theorem Blanks.eq_nil_of_beginsIn {gap rest : List Char} (h : Blanks gap)
    (hbegins : Text.beginsIn Text.isBlank (gap ++ rest) = false) : gap = [] := by
  cases gap with
  | nil => rfl
  | cons c gap => exact absurd ((h c List.mem_cons_self).symm.trans hbegins) (by simp)

theorem Blanks.eq_nil_of_endsIn {gap front : List Char} (h : Blanks gap)
    (hends : Text.endsIn Text.isBlank (front ++ gap) = false) : gap = [] := by
  by_contra hne
  have hblank := Text.endsIn_append (Text.endsIn_of_forall hne h) front
  exact absurd (hblank.symm.trans hends) (by simp)

theorem skipBlanks_eq_self {cs : List Char} (h : Text.beginsIn Text.isBlank cs = false) :
    skipBlanks cs = cs :=
  Text.dropWhile_eq_self h

/-- What a run begins with. -/
theorem Run.exists_cons {p : Char → Bool} {cs : List Char} (h : Run p cs) :
    ∃ c rest, cs = c :: rest ∧ p c = true := by
  cases cs with
  | nil => exact absurd rfl h.ne_nil
  | cons c rest => exact ⟨c, rest, rfl, h.all c List.mem_cons_self⟩

/-- The run at the front of a text is not empty. -/
theorem run_takeWhile {p : Char → Bool} {cs : List Char} (h : (cs.takeWhile p).isEmpty = false) :
    Run p (cs.takeWhile p) :=
  ⟨fun hnil => by rw [hnil] at h; exact absurd h (by simp), List.all_eq_true.mp List.all_takeWhile⟩

/-! ## The grammar -/

/-- How an index is spelled: nothing at all, or a colon with blanks around it and digits.  What is
written counts from one. -/
inductive SpellsIndex : Option Nat → List Char → Prop where
  | absent : SpellsIndex none []
  | written {before after digits : List Char} : Blanks before → Blanks after →
      Run Char.isDigit digits → 1 ≤ Text.digitsValue digits → Text.digitsValue digits ≤ maxIndex →
      SpellsIndex (some (Text.digitsValue digits - 1)) (before ++ ':' :: (after ++ digits))

/-- How a step is spelled: a name and perhaps an index. -/
inductive Step.SpelledBy : Step → List Char → Prop where
  | intro {name written : List Char} {index : Option Nat} : Run Text.isNameChar name →
      SpellsIndex index written →
      Step.SpelledBy (Step.make (String.ofList name) index) (name ++ written)

/-- How steps are spelled: one after another, with a dot and blanks around it between them. -/
inductive SpellsSteps : Step → List Step → List Char → Prop where
  | last {s : Step} {cs : List Char} : s.SpelledBy cs → SpellsSteps s [] cs
  | dot {s next : Step} {steps : List Step} {cs before after more : List Char} : s.SpelledBy cs →
      Blanks before → Blanks after → SpellsSteps next steps more →
      SpellsSteps s (next :: steps) (cs ++ (before ++ '.' :: (after ++ more)))

/-- How a path is spelled. -/
def Path.SpelledBy (p : Path) (cs : List Char) : Prop := SpellsSteps p.root p.rest cs

/-! ## What is read has a spelling -/

variable {cs rest : List Char} {i : Nat} {index : Option Nat} {s root : Step} {steps : List Step}

/-- An index that is read is a run of digits in front of the rest. -/
theorem exists_digits_of_readIndex (h : readIndex cs = .ok (i, rest)) :
    ∃ digits, cs = digits ++ rest ∧ Run Char.isDigit digits ∧ 1 ≤ Text.digitsValue digits ∧
      Text.digitsValue digits ≤ maxIndex ∧ i = Text.digitsValue digits - 1 := by
  unfold readIndex at h
  simp only at h
  split at h
  · split at h
    · exact absurd h (by simp)
    · exact absurd h (by simp)
  · rename_i hdigits
    split at h
    · exact absurd h (by simp)
    · rename_i hlarge
      split at h
      · exact absurd h (by simp)
      · rename_i hzero
        obtain ⟨rfl, rfl⟩ := Prod.mk.inj (Except.ok.inj h)
        exact ⟨cs.takeWhile Char.isDigit, List.takeWhile_append_dropWhile.symm,
          run_takeWhile (by simpa using hdigits), Nat.one_le_iff_ne_zero.mpr hzero,
          Nat.le_of_not_lt hlarge, rfl⟩

/-- Behind an index blanks may have been skipped. -/
theorem spellsIndex_of_readIndexPart (h : readIndexPart cs = .ok (index, rest)) :
    ∃ written gap, cs = written ++ (gap ++ rest) ∧ Blanks gap ∧ SpellsIndex index written := by
  obtain ⟨before, hbefore, hcs⟩ := exists_blanks_skipBlanks cs
  unfold readIndexPart at h
  split at h
  · rename_i more hcolon
    split at h
    · exact absurd h (by simp)
    · rename_i j rest' hread
      obtain ⟨rfl, rfl⟩ := Prod.mk.inj (Except.ok.inj h)
      obtain ⟨after, hafter, hmore⟩ := exists_blanks_skipBlanks more
      obtain ⟨digits, hdigits, hrun, hpos, hmax, rfl⟩ := exists_digits_of_readIndex hread
      refine ⟨before ++ ':' :: (after ++ digits), [], ?_, blanks_nil,
        SpellsIndex.written hbefore hafter hrun hpos hmax⟩
      rw [hcs, hcolon, hmore, hdigits]
      simp only [List.append_assoc, List.cons_append, List.nil_append]
  · obtain ⟨rfl, rfl⟩ := Prod.mk.inj (Except.ok.inj h)
    exact ⟨[], before, hcs, hbefore, SpellsIndex.absent⟩

/-- **A step that is read has a spelling.** -/
theorem spelledBy_of_readStep (h : readStep cs = .ok (s, rest)) :
    ∃ written gap, cs = written ++ (gap ++ rest) ∧ Blanks gap ∧ s.SpelledBy written := by
  unfold readStep at h
  simp only at h
  split at h
  · exact absurd h (by simp)
  · rename_i hname
    split at h
    · exact absurd h (by simp)
    · rename_i index rest' hread
      obtain ⟨rfl, rfl⟩ := Prod.mk.inj (Except.ok.inj h)
      obtain ⟨written, gap, hcs, hgap, hindex⟩ := spellsIndex_of_readIndexPart hread
      refine ⟨cs.takeWhile Text.isNameChar ++ written, gap, ?_, hgap,
        Step.SpelledBy.intro (run_takeWhile (by simpa using hname)) hindex⟩
      rw [List.append_assoc, ← hcs, List.takeWhile_append_dropWhile]

/-- **Steps that are read have a spelling**, with blanks behind it.  By induction on the recursion
of the reader. -/
theorem spelledBy_of_readSteps (cs : List Char) : ∀ {root : Step} {steps : List Step},
    readSteps cs = .ok (root, steps) →
      ∃ written gap, cs = written ++ gap ∧ Blanks gap ∧ SpellsSteps root steps written := by
  fun_induction readSteps cs with
  | case1 cs f hs =>
    intro root steps h
    exact absurd h (by simp)
  | case2 cs step rest hs hr =>
    intro root steps h
    obtain ⟨rfl, rfl⟩ := Prod.mk.inj (Except.ok.inj h)
    obtain ⟨written, gap, hcs, hgap, hstep⟩ := spelledBy_of_readStep hs
    obtain ⟨after, hafter, hrest⟩ := exists_blanks_skipBlanks rest
    rw [hr, List.append_nil] at hrest
    exact ⟨written, gap ++ rest, hcs, blanks_append.mpr ⟨hgap, hrest ▸ hafter⟩,
      SpellsSteps.last hstep⟩
  | case3 cs step rest hs more f hf hr ih =>
    intro root steps h
    exact absurd h (by simp)
  | case4 cs step rest hs more next steps hnext hr ih =>
    intro root steps' h
    obtain ⟨rfl, rfl⟩ := Prod.mk.inj (Except.ok.inj h)
    obtain ⟨first, gap, hcs, hgap, hstep⟩ := spelledBy_of_readStep hs
    obtain ⟨before, hbefore, hrest⟩ := exists_blanks_skipBlanks rest
    obtain ⟨after, hafter, hmore⟩ := exists_blanks_skipBlanks more
    obtain ⟨written, last, hwritten, hlast, hsteps⟩ := ih hnext
    refine ⟨_, last, ?_, hlast,
      SpellsSteps.dot hstep (blanks_append.mpr ⟨hgap, hbefore⟩) hafter hsteps⟩
    rw [hcs, hrest, hr, hmore, hwritten]
    simp only [List.append_assoc, List.cons_append]
  | case5 cs step rest hs c more hr hne =>
    intro root steps h
    exact absurd h (by simp)

/-! ## A spelling is read -/

/-- What may follow a step: blanks, and behind them the end or a dot. -/
def EndsStep (more : List Char) : Prop :=
  ∃ gap rest, Blanks gap ∧ more = gap ++ rest ∧ (rest = [] ∨ rest.head? = some '.')

/-- A class of characters that holds neither blanks nor dots does not go on behind a step. -/
theorem EndsStep.head?_any {more : List Char} (h : EndsStep more) {p : Char → Bool}
    (hblank : ∀ c, Text.isBlank c = true → p c = false) (hdot : p '.' = false) :
    more.head?.any p = false := by
  obtain ⟨gap, rest, hgap, rfl, hrest⟩ := h
  cases gap with
  | nil =>
    rcases hrest with rfl | hrest
    · rfl
    · rw [List.nil_append, hrest]
      exact hdot
  | cons c gap => exact hblank c (hgap c List.mem_cons_self)

/-- Behind the blanks nothing that begins an index comes. -/
theorem EndsStep.ne_colon {more : List Char} (h : EndsStep more) (after : List Char) :
    skipBlanks more ≠ ':' :: after := by
  obtain ⟨gap, rest, hgap, rfl, hrest⟩ := h
  rw [skipBlanks_append hgap]
  intro hcolon
  rcases hrest with rfl | hrest
  · exact absurd hcolon (by simp [skipBlanks])
  · cases rest with
    | nil => exact absurd hrest (by simp)
    | cons c rest =>
      obtain rfl : c = '.' := Option.some_inj.mp hrest
      have hdot : skipBlanks ('.' :: rest) = '.' :: rest := skipBlanks_eq_self rfl
      rw [hdot] at hcolon
      exact absurd (List.cons.inj hcolon).1 (by decide)

/-- Digits are read up to a character that is none. -/
theorem readIndex_append {digits more : List Char} (hdigits : Run Char.isDigit digits)
    (hpos : 1 ≤ Text.digitsValue digits) (hmax : Text.digitsValue digits ≤ maxIndex)
    (hmore : more.head?.any Char.isDigit = false) :
    readIndex (digits ++ more) = .ok (Text.digitsValue digits - 1, more) := by
  have hne : ¬digits.isEmpty = true := by simpa using hdigits.ne_nil
  unfold readIndex
  simp only [Text.takeWhile_append_of_head? hdigits.all hmore,
    Text.dropWhile_append_of_head? hdigits.all hmore]
  rw [if_neg hne, if_neg (Nat.not_lt.mpr hmax), if_neg (Nat.one_le_iff_ne_zero.mp hpos)]

/-- An index is read, and at most blanks behind it are skipped. -/
theorem readIndexPart_of_spellsIndex {written more : List Char} (h : SpellsIndex index written)
    (hmore : EndsStep more) : ∃ rest, readIndexPart (written ++ more) = .ok (index, rest) ∧
      skipBlanks rest = skipBlanks more := by
  cases h with
  | absent =>
    refine ⟨skipBlanks more, ?_, ?_⟩
    · rw [List.nil_append, readIndexPart]
      split
      · rename_i after hcolon
        exact absurd hcolon (hmore.ne_colon after)
      · rfl
    · obtain ⟨gap, hgap, hskip⟩ := exists_blanks_skipBlanks more
      rw [← skipBlanks_append hgap, ← hskip]
  | @written before after digits hbefore hafter hdigits hpos hmax =>
    refine ⟨more, ?_, rfl⟩
    obtain ⟨d, run, hrun, hd⟩ := hdigits.exists_cons
    have hread := readIndex_append hdigits hpos hmax
      (hmore.head?_any (fun c hc => Text.isDigit_of_isBlank hc) (by decide))
    have hcolon : skipBlanks (before ++ ':' :: (after ++ digits) ++ more) =
        ':' :: (after ++ (digits ++ more)) := by
      rw [List.append_assoc, skipBlanks_append hbefore, List.cons_append, List.append_assoc]
      exact skipBlanks_eq_self rfl
    have hskip : skipBlanks (after ++ (digits ++ more)) = digits ++ more := by
      rw [skipBlanks_append hafter]
      refine skipBlanks_eq_self ?_
      rw [hrun]
      exact Text.isBlank_of_isNameChar (Text.isNameChar_of_isDigit hd)
    rw [readIndexPart, hcolon]
    simp only [hskip, hread]

/-- **A step is read wherever its spelling stands**, if what follows may follow a step. -/
theorem readStep_of_spelledBy {written more : List Char} (h : s.SpelledBy written)
    (hmore : EndsStep more) : ∃ rest, readStep (written ++ more) = .ok (s, rest) ∧
      skipBlanks rest = skipBlanks more := by
  cases h with
  | @intro name written index hname hindex =>
    obtain ⟨rest, hread, hskip⟩ := readIndexPart_of_spellsIndex hindex hmore
    refine ⟨rest, ?_, hskip⟩
    -- whether an index is written or not, the name is over where its spelling begins
    have hends : (written ++ more).head?.any Text.isNameChar = false := by
      cases hindex with
      | absent => exact hmore.head?_any (fun c hc => Text.isNameChar_of_isBlank hc) (by decide)
      | @written before after digits hbefore hafter hdigits hpos hmax =>
        cases before with
        | nil => rfl
        | cons b before => exact Text.isNameChar_of_isBlank (hbefore b List.mem_cons_self)
    have hne : ¬name.isEmpty = true := by simpa using hname.ne_nil
    unfold readStep
    rw [List.append_assoc]
    simp only [Text.takeWhile_append_of_head? hname.all hends,
      Text.dropWhile_append_of_head? hname.all hends, hread]
    rw [if_neg hne]

/-- The last step of a path. -/
theorem readSteps_of_last (hs : readStep cs = .ok (s, rest)) (hr : skipBlanks rest = []) :
    readSteps cs = .ok (s, []) := by
  rw [readSteps]
  split
  · next f hf => exact absurd (hf.symm.trans hs) (by simp)
  · next s' rest' hs' =>
    obtain ⟨rfl, rfl⟩ := Prod.mk.inj (Except.ok.inj (hs'.symm.trans hs))
    split
    · rfl
    · next c more hr' => exact absurd (hr'.symm.trans hr) (by simp)

/-- A step with a dot behind it. -/
theorem readSteps_of_dot {more : List Char} {next : Step} (hs : readStep cs = .ok (s, rest))
    (hr : skipBlanks rest = '.' :: more)
    (hmore : readSteps (skipBlanks more) = .ok (next, steps)) :
    readSteps cs = .ok (s, next :: steps) := by
  rw [readSteps]
  split
  · next f hf => exact absurd (hf.symm.trans hs) (by simp)
  · next s' rest' hs' =>
    obtain ⟨rfl, rfl⟩ := Prod.mk.inj (Except.ok.inj (hs'.symm.trans hs))
    split
    · next hr' => exact absurd (hr'.symm.trans hr) (by simp)
    · next c more' hr' =>
      obtain ⟨rfl, rfl⟩ := List.cons.inj (hr'.symm.trans hr)
      rw [if_pos rfl, hmore]

/-- What steps are spelled by begins with a name character. -/
theorem SpellsSteps.exists_cons {written : List Char} (h : SpellsSteps root steps written) :
    ∃ c more, written = c :: more ∧ Text.isNameChar c = true := by
  have hstep : ∀ {s : Step} {cs : List Char}, s.SpelledBy cs →
      ∃ c more, cs = c :: more ∧ Text.isNameChar c = true := by
    rintro s cs ⟨hname, -⟩
    obtain ⟨c, run, rfl, hc⟩ := hname.exists_cons
    exact ⟨c, _, rfl, hc⟩
  cases h with
  | last hs => exact hstep hs
  | dot hs _ _ _ =>
    obtain ⟨c, more, rfl, hc⟩ := hstep hs
    exact ⟨c, _, rfl, hc⟩

/-- The name of a step that has a spelling is folded. -/
theorem Step.SpelledBy.fold_name {written : List Char} (h : s.SpelledBy written) :
    Text.fold s.name = s.name := by
  obtain ⟨-, -⟩ := h
  exact Text.fold_fold _

/-- What a step is spelled by ends in a name character. -/
theorem Step.SpelledBy.endsIn {written : List Char} (h : s.SpelledBy written) :
    Text.endsIn Text.isNameChar written = true := by
  obtain ⟨hname, hindex⟩ := h
  cases hindex with
  | absent =>
    rw [List.append_nil]
    exact Text.endsIn_of_forall hname.ne_nil hname.all
  | @written before after digits hbefore hafter hdigits hpos hmax =>
    have hlast : Text.endsIn Text.isNameChar digits = true :=
      Text.endsIn_of_forall hdigits.ne_nil fun c hc => Text.isNameChar_of_isDigit (hdigits.all c hc)
    exact Text.endsIn_append (Text.endsIn_append (Text.endsIn_append hlast (':' :: after)) before) _

/-- What steps are spelled by ends in a name character. -/
theorem SpellsSteps.endsIn {written : List Char} (h : SpellsSteps root steps written) :
    Text.endsIn Text.isNameChar written = true := by
  induction h with
  | last hs => exact hs.endsIn
  | @dot s next steps cs before after more hs hbefore hafter hmore ih =>
    exact Text.endsIn_append (Text.endsIn_append (Text.endsIn_append ih ('.' :: after)) before) cs

/-- Each of the steps is spelled somewhere. -/
theorem SpellsSteps.exists_spelledBy {written : List Char} (h : SpellsSteps root steps written) :
    ∀ s ∈ root :: steps, ∃ piece, s.SpelledBy piece := by
  induction h with
  | last hs => exact List.forall_mem_singleton.mpr ⟨_, hs⟩
  | dot hs _ _ _ ih => exact List.forall_mem_cons.mpr ⟨⟨_, hs⟩, ih⟩

/-- No blank begins a spelling. -/
theorem SpellsSteps.beginsIn_isBlank {written : List Char} (h : SpellsSteps root steps written) :
    Text.beginsIn Text.isBlank written = false := by
  obtain ⟨c, more, rfl, hc⟩ := h.exists_cons
  exact Text.isBlank_of_isNameChar hc

theorem SpellsSteps.skipBlanks_append {written : List Char} (h : SpellsSteps root steps written)
    (more : List Char) : skipBlanks (written ++ more) = written ++ more := by
  obtain ⟨c, run, rfl, hc⟩ := h.exists_cons
  exact skipBlanks_eq_self (Text.isBlank_of_isNameChar hc)

/-- **Steps are read from their spelling**, with blanks behind it.  By induction on the spelling. -/
theorem readSteps_of_spelledBy {written gap : List Char} (h : SpellsSteps root steps written)
    (hgap : Blanks gap) : readSteps (written ++ gap) = .ok (root, steps) := by
  induction h with
  | last hs =>
    obtain ⟨rest, hread, hskip⟩ :=
      readStep_of_spelledBy hs ⟨gap, [], hgap, (List.append_nil gap).symm, Or.inl rfl⟩
    refine readSteps_of_last hread (hskip.trans ?_)
    rw [← List.append_nil gap, TagTemplates.skipBlanks_append hgap]
    rfl
  | @dot s next steps cs before after more hs hbefore hafter hmore ih =>
    have hends : EndsStep (before ++ '.' :: (after ++ (more ++ gap))) :=
      ⟨before, _, hbefore, rfl, Or.inr rfl⟩
    obtain ⟨rest, hread, hskip⟩ := readStep_of_spelledBy hs hends
    have hdot : Text.beginsIn Text.isBlank ('.' :: (after ++ (more ++ gap))) = false := rfl
    rw [TagTemplates.skipBlanks_append hbefore, skipBlanks_eq_self hdot] at hskip
    have hnext : readSteps (skipBlanks (after ++ (more ++ gap))) = .ok (next, steps) := by
      rw [TagTemplates.skipBlanks_append hafter, hmore.skipBlanks_append]
      exact ih
    simp only [List.append_assoc, List.cons_append]
    exact readSteps_of_dot hread hskip hnext

/-! ## Paths and tags -/

variable {path : Path}

/-- **What a bare path is**: a spelling of it with blanks around. -/
theorem readPath_eq_ok_iff : readPath cs = .ok path ↔ ∃ before written after,
    cs = before ++ (written ++ after) ∧ Blanks before ∧ Blanks after ∧ path.SpelledBy written := by
  constructor
  · intro h
    unfold readPath at h
    split at h
    · exact absurd h (by simp)
    · rename_i root steps hread
      obtain rfl := Except.ok.inj h
      obtain ⟨before, hbefore, hcs⟩ := exists_blanks_skipBlanks cs
      obtain ⟨written, after, hskip, hafter, hspelled⟩ := spelledBy_of_readSteps _ hread
      exact ⟨before, written, after, hskip ▸ hcs, hbefore, hafter, hspelled⟩
  · rintro ⟨before, written, after, rfl, hbefore, hafter, hspelled⟩
    have hspells : SpellsSteps path.root path.rest written := hspelled
    rw [readPath, skipBlanks_append hbefore, hspells.skipBlanks_append,
      readSteps_of_spelledBy hspelled hafter]

/-- A bare path without blanks at its ends is a spelling. -/
theorem spelledBy_of_readPath (h : readPath cs = .ok path)
    (hbegins : Text.beginsIn Text.isBlank cs = false)
    (hends : Text.endsIn Text.isBlank cs = false) : path.SpelledBy cs := by
  obtain ⟨before, written, after, rfl, hbefore, hafter, hspelled⟩ := readPath_eq_ok_iff.mp h
  obtain rfl : before = [] := hbefore.eq_nil_of_beginsIn hbegins
  obtain rfl : after = [] := hafter.eq_nil_of_endsIn hends
  rwa [List.nil_append, List.append_nil]

theorem inBraces?_eq_some_iff {inner : List Char} :
    inBraces? cs = some inner ↔ cs = '{' :: (inner ++ ['}']) := by
  constructor
  · intro h
    unfold inBraces? at h
    split at h
    · rename_i rest
      split at h
      · rename_i hlast
        obtain rfl := Option.some_inj.mp h
        rw [List.dropLast_append_getLast? '}' hlast]
      · exact absurd h (by simp)
    · exact absurd h (by simp)
  · rintro rfl
    rw [inBraces?, if_pos List.getLast?_concat, List.dropLast_concat]

/-- **What a tag is**: a spelling of its path in braces. -/
theorem readTag_eq_ok_iff : Path.readTag cs = .ok path ↔
    ∃ inner, cs = '{' :: (inner ++ ['}']) ∧ path.SpelledBy inner := by
  constructor
  · intro h
    unfold Path.readTag at h
    split at h
    · exact absurd h (by simp)
    · rename_i inner hinner
      split at h
      · exact absurd h (by simp)
      · rename_i hbegins
        split at h
        · exact absurd h (by simp)
        · rename_i hends
          split at h
          · exact absurd h (by simp)
          · rename_i p hread
            obtain rfl := Except.ok.inj h
            -- the checks next to the braces leave no blanks around the spelling
            exact ⟨inner, inBraces?_eq_some_iff.mp hinner,
              spelledBy_of_readPath hread (by simpa using hbegins) (by simpa using hends)⟩
  · rintro ⟨inner, rfl, hspelled⟩
    have hspells : SpellsSteps path.root path.rest inner := hspelled
    have hread : readPath inner = .ok path :=
      readPath_eq_ok_iff.mpr ⟨[], inner, [], by simp, blanks_nil, blanks_nil, hspelled⟩
    unfold Path.readTag
    rw [inBraces?_eq_some_iff.mpr rfl]
    simp only [hspells.beginsIn_isBlank, Text.endsIn_isBlank hspells.endsIn, hread]
    rfl

theorem read_eq_ok_iff : Path.read cs = .ok path ↔ readPath cs = .ok path := by
  rw [Path.read]
  cases readPath cs with
  | error f => simp
  | ok found => simp

/-! ## What is written for a path -/

/-- What is written for a step spells it with its name folded, if its index can be written. -/
theorem Step.make_spelledBy_source (hname : Run Text.isNameChar s.name.toList)
    (hindex : ∀ i, s.index = some i → i < maxIndex) :
    (Step.make s.name s.index).SpelledBy s.source := by
  have hspells : SpellsIndex s.index (Step.indexSource s.index) := by
    cases hi : s.index with
    | none => exact SpellsIndex.absent
    | some i =>
      have hvalue := Text.digitsValue_natDigits (i + 1)
      have hlt := hindex i hi
      have hdigits : Run Char.isDigit (Text.natDigits (i + 1)) :=
        ⟨Text.natDigits_ne_nil _, fun c hc => Text.isDigit_of_mem_natDigits hc⟩
      have hwritten := SpellsIndex.written blanks_nil blanks_nil hdigits (by omega) (by omega)
      rwa [hvalue, Nat.add_sub_cancel] at hwritten
  have hspelled := Step.SpelledBy.intro hname hspells
  rwa [String.ofList_toList] at hspelled

/-- A step is spelled by its source: its name is folded and its index can be written. -/
theorem Step.spelledBy_source (hname : Run Text.isNameChar s.name.toList)
    (hfold : Text.fold s.name = s.name) (hindex : ∀ i, s.index = some i → i < maxIndex) :
    s.SpelledBy s.source := by
  have hmake : Step.make s.name s.index = s := by rw [Step.make, hfold]
  have hspelled := Step.make_spelledBy_source hname hindex
  rwa [hmake] at hspelled

theorem stepsSource_cons_cons (s next : Step) (steps : List Step) :
    stepsSource (s :: next :: steps) = s.source ++ '.' :: stepsSource (next :: steps) := by
  rw [stepsSource, List.map_cons, List.map_cons, Text.joinWith, List.append_assoc]
  rfl

/-- Steps are spelled by the source of others when each of them is. -/
theorem spellsSteps_map {f : Step → Step} : ∀ {steps : List Step} {root : Step},
    (∀ s ∈ root :: steps, (f s).SpelledBy s.source) →
      SpellsSteps (f root) (steps.map f) (stepsSource (root :: steps))
  | [], root, h => SpellsSteps.last (h root List.mem_cons_self)
  | next :: steps, root, h => by
    obtain ⟨hroot, hrest⟩ := List.forall_mem_cons.mp h
    rw [stepsSource_cons_cons]
    exact SpellsSteps.dot hroot blanks_nil blanks_nil (spellsSteps_map hrest)

theorem spellsSteps_stepsSource {steps : List Step} {root : Step}
    (h : ∀ s ∈ root :: steps, s.SpelledBy s.source) :
    SpellsSteps root steps (stepsSource (root :: steps)) := by
  have hspells := spellsSteps_map (f := id) h
  rwa [List.map_id] at hspells

/-- **What is written for a path is read as the path.** -/
theorem readTag_tag (h : ∀ s ∈ path.steps, s.SpelledBy s.source) :
    Path.readTag path.tag = .ok path :=
  readTag_eq_ok_iff.mpr ⟨path.source, rfl, spellsSteps_stepsSource h⟩

/-! ## Text that is still being typed -/

/-- What is read leniently begins with the step that is read strictly. -/
theorem readPartialSteps_of_readStep (h : readStep cs = .ok (s, rest)) :
    (skipBlanks rest = [] → readPartialSteps cs = [s]) ∧
      ∀ more, skipBlanks rest = '.' :: more →
        readPartialSteps cs = s :: readPartialSteps (skipBlanks more) := by
  unfold readStep at h
  simp only at h
  split at h
  · exact absurd h (by simp)
  · rename_i hname
    have hne : cs.takeWhile Text.isNameChar ≠ [] := by simpa using hname
    split at h
    · exact absurd h (by simp)
    · rename_i index rest' hread
      obtain ⟨rfl, rfl⟩ := Prod.mk.inj (Except.ok.inj h)
      rw [readPartialSteps, dif_neg hne]
      split
      · next f hf => exact absurd (hf.symm.trans hread) (by simp)
      · next index' rest'' hread' =>
        obtain ⟨rfl, rfl⟩ := Prod.mk.inj (Except.ok.inj (hread'.symm.trans hread))
        split
        · next more hmore =>
          refine ⟨fun hnil => absurd (hmore.symm.trans hnil) (by simp), fun more' hmore' => ?_⟩
          obtain rfl := (List.cons.inj (hmore.symm.trans hmore')).2
          rfl
        · next hother => exact ⟨fun _ => rfl, fun more hmore => absurd hmore (hother more)⟩

/-- Steps that are read strictly are read leniently.  By induction on the recursion of the strict
reader. -/
theorem readPartialSteps_of_readSteps (cs : List Char) : ∀ {root : Step} {steps : List Step},
    readSteps cs = .ok (root, steps) → readPartialSteps cs = root :: steps := by
  fun_induction readSteps cs with
  | case1 cs f hs =>
    intro root steps h
    exact absurd h (by simp)
  | case2 cs step rest hs hr =>
    intro root steps h
    obtain ⟨rfl, rfl⟩ := Prod.mk.inj (Except.ok.inj h)
    exact (readPartialSteps_of_readStep hs).1 hr
  | case3 cs step rest hs more f hf hr ih =>
    intro root steps h
    exact absurd h (by simp)
  | case4 cs step rest hs more next steps hnext hr ih =>
    intro root steps' h
    obtain ⟨rfl, rfl⟩ := Prod.mk.inj (Except.ok.inj h)
    rw [(readPartialSteps_of_readStep hs).2 more hr, ih hnext]
  | case5 cs step rest hs c more hr hne =>
    intro root steps h
    exact absurd h (by simp)

/-- **A path that is complete is read leniently as itself.** -/
theorem readPartial_of_readPath (h : readPath cs = .ok path) : readPartial cs = path.steps := by
  obtain ⟨before, written, after, rfl, hbefore, hafter, hspelled⟩ := readPath_eq_ok_iff.mp h
  have hspells : SpellsSteps path.root path.rest written := hspelled
  obtain ⟨c, more, hcons, hc⟩ := hspells.exists_cons
  have hbegins : Text.beginsIn Text.isSpace written = false := by
    rw [hcons]
    exact Text.isSpace_of_isNameChar hc
  have htrim : Text.trim (before ++ (written ++ after)) = written :=
    Text.trim_append (fun b hb => Text.isSpace_of_isBlank (hbefore b hb))
      (fun b hb => Text.isSpace_of_isBlank (hafter b hb)) (by simp [hcons]) hbegins
      (Text.endsIn_eq_false (fun _ => Text.isSpace_of_isNameChar) hspells.endsIn)
  have hread := readSteps_of_spelledBy hspells blanks_nil
  rw [List.append_nil] at hread
  rw [readPartial, htrim, readPartialSteps_of_readSteps written hread]
  rfl

/-! ## The readers and the grammar -/

/-- **Tags and bare paths are exactly what the grammar spells.**  A tag is a spelling of its path
between braces, which no blank touches; a bare path may also have blanks around its spelling.  The
path that is read is the one that is spelled. -/
theorem read_iff_spelledBy (cs : List Char) (path : Path) :
    (Path.readTag cs = .ok path ↔ ∃ inner, cs = '{' :: (inner ++ ['}']) ∧ path.SpelledBy inner ∧
      Text.beginsIn Text.isBlank inner = false ∧ Text.endsIn Text.isBlank inner = false) ∧
    (Path.read cs = .ok path ↔ ∃ before inner after, cs = before ++ (inner ++ after) ∧
      Blanks before ∧ Blanks after ∧ path.SpelledBy inner) := by
  refine ⟨?_, read_eq_ok_iff.trans readPath_eq_ok_iff⟩
  rw [readTag_eq_ok_iff]
  refine exists_congr fun inner => and_congr_right fun _ => (and_iff_left_of_imp ?_).symm
  intro hspelled
  have hspells : SpellsSteps path.root path.rest inner := hspelled
  exact ⟨hspells.beginsIn_isBlank, Text.endsIn_isBlank hspells.endsIn⟩

/-- Names are folded, zeros may stand in front of an index, and blanks around separators only. -/
example : Path.readTag "{User . dogs  :02}".toList =
    .ok ⟨⟨"user", none⟩, [⟨"dogs", some 1⟩]⟩ := by decide +kernel

end TagTemplates
