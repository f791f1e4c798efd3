import TagTemplates.Proofs.Tag.Prefixes
import TagTemplates.Proofs.Tag.RoundTrip

/-!
# What is read from a source form

Steps can be put together in other ways than by reading them, and then their names need not be
folded and their indices need not be writable: counted from one, the index of a step may be larger
than any number that the readers take.  Here it is told what the readers make of the source form of
any steps.

* `Step.folded`, `Step.IndexFits`: what a step is read as, and when.
* `readPath_stepsSource`: steps whose indices fit are read as themselves, folded.
* `exists_readTag_tag_iff`: no others are read from their tag.
* `readPartial_stepsSource_of_large`: read leniently, an index that does not fit is left out, and so
  is everything behind it.
* `wellFormed_of_mem_readPartial`: what is read leniently is well-formed.
-/

namespace TagTemplates

namespace Step

/-- The step with its name folded. -/
def folded (s : Step) : Step := make s.name s.index

/-- The index of the step, if there is one, can be written. -/
def IndexFits (s : Step) : Prop := ∀ i, s.index = some i → i ≤ largestIndex

variable {s : Step}

theorem folded_eq_self (h : Text.fold s.name = s.name) : s.folded = s := by
  rw [folded, make, h]

theorem indexFits_of_index_eq_none (h : s.index = none) : s.IndexFits := by
  intro i hi
  rw [h] at hi
  exact absurd hi (by simp)

/-- A step does not fit because of the index it has. -/
theorem exists_large_of_not_indexFits (h : ¬s.IndexFits) : ∃ i, s.index = some i ∧ maxIndex ≤ i := by
  rw [IndexFits, not_forall] at h
  obtain ⟨i, hi⟩ := h
  obtain ⟨hindex, hlarge⟩ := Classical.not_imp.mp hi
  exact ⟨i, hindex, Nat.lt_of_not_le hlarge⟩

theorem spelledBy_folded_source (hname : Run Text.isNameChar s.name.toList) (h : s.IndexFits) :
    s.folded.SpelledBy s.source :=
  make_spelledBy_source hname fun i hi => Nat.lt_succ_of_le (h i hi)

/-- A step is well-formed when its name is a folded run of name characters and its index fits. -/
theorem wellFormed_of_run (hname : Run Text.isNameChar s.name.toList)
    (hfold : Text.fold s.name = s.name) (h : s.IndexFits) : s.WellFormed := by
  have hspelled := spelledBy_folded_source hname h
  rw [folded_eq_self hfold] at hspelled
  exact hspelled.wellFormed

/-- What is written for a step ends in a name character. -/
theorem endsIn_source (hname : Run Text.isNameChar s.name.toList) :
    Text.endsIn Text.isNameChar s.source = true := by
  rw [source]
  cases hindex : s.index with
  | none =>
    rw [indexSource, List.append_nil]
    exact Text.endsIn_of_forall hname.ne_nil hname.all
  | some i =>
    have hdigits : Text.endsIn Text.isNameChar (Text.natDigits (i + 1)) = true :=
      Text.endsIn_of_forall (Text.natDigits_ne_nil _) fun c hc =>
        Text.isNameChar_of_isDigit (Text.isDigit_of_mem_natDigits hc)
    exact Text.endsIn_append (Text.endsIn_append hdigits [':']) s.name.toList

end Step

/-! ## Steps one behind another -/

/-- What is written behind the first step. -/
def sourceBelow : List Step → List Char
  | [] => []
  | next :: rest => '.' :: stepsSource (next :: rest)

variable {s root : Step} {front back rest : List Step} {more : List Char}

theorem stepsSource_cons (root : Step) : ∀ rest : List Step,
    stepsSource (root :: rest) = root.source ++ sourceBelow rest
  | [] => (List.append_nil _).symm
  | next :: rest => stepsSource_cons_cons root next rest

theorem endsStep_sourceBelow : ∀ rest : List Step, EndsStep (sourceBelow rest)
  | [] => ⟨[], [], blanks_nil, rfl, Or.inl rfl⟩
  | _ :: _ => ⟨[], _, blanks_nil, rfl, Or.inr rfl⟩

theorem stepsSource_concat : ∀ {steps : List Step}, steps ≠ [] → ∀ s : Step,
    stepsSource (steps ++ [s]) = stepsSource steps ++ '.' :: s.source
  | [], h, _ => absurd rfl h
  | [root], _, s => stepsSource_cons_cons root s []
  | root :: next :: steps, _, s => by
    have ih := stepsSource_concat (List.cons_ne_nil next steps) s
    rw [List.cons_append] at ih
    rw [List.cons_append, List.cons_append, stepsSource_cons_cons, stepsSource_cons_cons, ih,
      List.append_assoc, List.cons_append]

/-- What is written for steps begins with a name character. -/
theorem exists_cons_stepsSource (hname : Run Text.isNameChar root.name.toList) (rest : List Step) :
    ∃ c more, stepsSource (root :: rest) = c :: more ∧ Text.isNameChar c = true := by
  obtain ⟨c, run, hrun, hc⟩ := hname.exists_cons
  refine ⟨c, run ++ (Step.indexSource root.index ++ sourceBelow rest), ?_, hc⟩
  rw [stepsSource_cons, Step.source, hrun, List.append_assoc, List.cons_append]

theorem skipBlanks_stepsSource (hname : Run Text.isNameChar root.name.toList) (rest : List Step) :
    skipBlanks (stepsSource (root :: rest)) = stepsSource (root :: rest) := by
  obtain ⟨c, more, hcs, hc⟩ := exists_cons_stepsSource hname rest
  refine skipBlanks_eq_self ?_
  rw [hcs]
  exact Text.isBlank_of_isNameChar hc

/-- What is written for steps ends in a name character. -/
theorem endsIn_stepsSource : ∀ {root : Step} {rest : List Step},
    (∀ s ∈ root :: rest, Run Text.isNameChar s.name.toList) →
      Text.endsIn Text.isNameChar (stepsSource (root :: rest)) = true
  | root, [], h => Step.endsIn_source (h root List.mem_cons_self)
  | root, next :: rest, h => by
    rw [stepsSource_cons_cons]
    have hrest := endsIn_stepsSource (List.forall_mem_cons.mp h).2
    exact Text.endsIn_append (Text.endsIn_append hrest ['.']) root.source

/-- No white space surrounds what is written for steps. -/
theorem trim_stepsSource (h : ∀ s ∈ root :: rest, Run Text.isNameChar s.name.toList) :
    Text.trim (stepsSource (root :: rest)) = stepsSource (root :: rest) := by
  obtain ⟨c, more, hcs, hc⟩ := exists_cons_stepsSource (h root List.mem_cons_self) rest
  have hbegins : Text.beginsIn Text.isSpace (stepsSource (root :: rest)) = false := by
    rw [hcs]
    exact Text.isSpace_of_isNameChar hc
  have hends : Text.endsIn Text.isSpace (stepsSource (root :: rest)) = false :=
    Text.endsIn_eq_false (fun _ => Text.isSpace_of_isNameChar) (endsIn_stepsSource h)
  have hnone : ∀ c ∈ ([] : List Char), Text.isSpace c = true := fun c hc => absurd hc (by simp)
  have htrim := Text.trim_append hnone hnone (by simp [hcs]) hbegins hends
  rwa [List.nil_append, List.append_nil] at htrim

/-! ## Indices that fit -/

/-- **Steps whose indices fit are read from their source form**, folded. -/
theorem readPath_stepsSource (hnames : ∀ s ∈ root :: rest, Run Text.isNameChar s.name.toList)
    (hfits : ∀ s ∈ root :: rest, s.IndexFits) :
    readPath (stepsSource (root :: rest)) = .ok ⟨root.folded, rest.map Step.folded⟩ := by
  have hspells : SpellsSteps root.folded (rest.map Step.folded) (stepsSource (root :: rest)) :=
    spellsSteps_map fun s hs => Step.spelledBy_folded_source (hnames s hs) (hfits s hs)
  exact readPath_eq_ok_iff.mpr ⟨[], _, [], by simp, blanks_nil, blanks_nil, hspells⟩

/-! ## Indices that do not fit -/

/-- A number that is too large is not read as an index. -/
theorem readIndex_of_large {i : Nat} (h : maxIndex ≤ i) (hmore : EndsStep more) :
    ∃ f, readIndex (Text.natDigits (i + 1) ++ more) = .error f := by
  have hdigits : ∀ c ∈ Text.natDigits (i + 1), c.isDigit = true :=
    fun c hc => Text.isDigit_of_mem_natDigits hc
  have hends : more.head?.any Char.isDigit = false :=
    hmore.head?_any (fun c hc => Text.isDigit_of_isBlank hc) (by decide)
  have hne : ¬(Text.natDigits (i + 1)).isEmpty = true := by
    simpa using Text.natDigits_ne_nil (i + 1)
  refine ⟨⟨.invalidIndex (String.ofList (Text.natDigits (i + 1))),
    Text.natDigits (i + 1) ++ more⟩, ?_⟩
  unfold readIndex
  simp only [Text.takeWhile_append_of_head? hdigits hends, Text.digitsValue_natDigits]
  rw [if_neg hne, if_pos (by omega)]

theorem readIndexPart_of_large {i : Nat} (h : maxIndex ≤ i) (hmore : EndsStep more) :
    ∃ f, readIndexPart (Step.indexSource (some i) ++ more) = .error f := by
  obtain ⟨f, hread⟩ := readIndex_of_large h hmore
  have hskip : skipBlanks (Text.natDigits (i + 1) ++ more) = Text.natDigits (i + 1) ++ more := by
    obtain ⟨d, run, hd⟩ := List.exists_cons_of_ne_nil (Text.natDigits_ne_nil (i + 1))
    have hdigit : d.isDigit = true := by
      refine Text.isDigit_of_mem_natDigits (n := i + 1) ?_
      rw [hd]
      exact List.mem_cons_self
    refine skipBlanks_eq_self ?_
    rw [hd]
    exact Text.isBlank_of_isNameChar (Text.isNameChar_of_isDigit hdigit)
  have hcolon : skipBlanks (Step.indexSource (some i) ++ more) =
      ':' :: (Text.natDigits (i + 1) ++ more) := skipBlanks_eq_self rfl
  refine ⟨f, ?_⟩
  rw [readIndexPart, hcolon]
  simp only [hskip, hread]

/-- The name of a step with an index is read up to the colon. -/
theorem takeWhile_source_append {i : Nat} (hname : Run Text.isNameChar s.name.toList)
    (hindex : s.index = some i) (more : List Char) :
    (s.source ++ more).takeWhile Text.isNameChar = s.name.toList ∧
      (s.source ++ more).dropWhile Text.isNameChar = Step.indexSource (some i) ++ more := by
  rw [Step.source, hindex, List.append_assoc]
  have hcolon : (Step.indexSource (some i) ++ more).head?.any Text.isNameChar = false := rfl
  exact ⟨Text.takeWhile_append_of_head? hname.all hcolon,
    Text.dropWhile_append_of_head? hname.all hcolon⟩

theorem readSteps_of_error {cs : List Char} {f : Fault} (h : readStep cs = .error f) :
    readSteps cs = .error f := by
  rw [readSteps]
  split
  · next g hg => rw [Except.error.inj (hg.symm.trans h)]
  · next s rest hs => exact absurd (hs.symm.trans h) (by simp)

/-- A fault behind a dot is a fault of the whole. -/
theorem readSteps_of_dot_of_error {cs left : List Char} {f : Fault}
    (h : readStep cs = .ok (s, left)) (hskip : skipBlanks left = '.' :: more)
    (hmore : readSteps (skipBlanks more) = .error f) : readSteps cs = .error f := by
  rw [readSteps]
  split
  · next g hg => exact absurd (hg.symm.trans h) (by simp)
  · next s' left' hs =>
    obtain ⟨rfl, rfl⟩ := Prod.mk.inj (Except.ok.inj (hs.symm.trans h))
    split
    · next hnil => exact absurd (hnil.symm.trans hskip) (by simp)
    · next c more' hc =>
      obtain ⟨rfl, rfl⟩ := List.cons.inj (hc.symm.trans hskip)
      rw [if_pos rfl, hmore]

/-- **Steps with an index that does not fit are not read.**  By induction on the steps in front of
the first such one. -/
theorem exists_readSteps_eq_error : ∀ {root : Step} {rest : List Step},
    (∀ s ∈ root :: rest, Run Text.isNameChar s.name.toList) →
      (∃ s ∈ root :: rest, ¬s.IndexFits) → ∃ f, readSteps (stepsSource (root :: rest)) = .error f
  | root, rest, hnames, hlarge => by
    obtain ⟨hroot, hrest⟩ := List.forall_mem_cons.mp hnames
    have hends := endsStep_sourceBelow rest
    by_cases hfits : root.IndexFits
    · cases rest with
      | nil =>
        obtain ⟨s, hs, hnot⟩ := hlarge
        rw [List.mem_singleton.mp hs] at hnot
        exact absurd hfits hnot
      | cons next rest =>
        obtain ⟨s, hs, hnot⟩ := hlarge
        have hbehind : ∃ s ∈ next :: rest, ¬s.IndexFits := by
          rcases List.mem_cons.mp hs with rfl | hs
          · exact absurd hfits hnot
          · exact ⟨s, hs, hnot⟩
        obtain ⟨f, hf⟩ := exists_readSteps_eq_error hrest hbehind
        obtain ⟨left, hread, hskip⟩ :=
          readStep_of_spelledBy (Step.spelledBy_folded_source hroot hfits) hends
        rw [← stepsSource_cons] at hread
        have hdot : skipBlanks (sourceBelow (next :: rest)) = '.' :: stepsSource (next :: rest) :=
          skipBlanks_eq_self rfl
        refine ⟨f, readSteps_of_dot_of_error hread (hskip.trans hdot) ?_⟩
        rw [skipBlanks_stepsSource (hrest next List.mem_cons_self), hf]
    · obtain ⟨i, hindex, hi⟩ := Step.exists_large_of_not_indexFits hfits
      obtain ⟨f, hf⟩ := readIndexPart_of_large hi hends
      obtain ⟨htake, hdrop⟩ := takeWhile_source_append hroot hindex (sourceBelow rest)
      refine ⟨f, readSteps_of_error ?_⟩
      simp only [stepsSource_cons, readStep, htake, hdrop, hf]
      exact if_neg (by simpa using hroot.ne_nil)

/-- **A path is read from its tag exactly when all of its indices fit.** -/
theorem exists_readTag_tag_iff {path : Path}
    (hnames : ∀ s ∈ path.steps, Run Text.isNameChar s.name.toList) :
    (∃ read, Path.readTag path.tag = .ok read) ↔ ∀ s ∈ path.steps, s.IndexFits := by
  constructor
  · rintro ⟨read, hread⟩
    by_contra hnot
    have hlarge : ∃ s ∈ path.steps, ¬s.IndexFits := by
      simpa only [not_forall, exists_prop] using hnot
    obtain ⟨inner, hinner, hspelled⟩ := readTag_eq_ok_iff.mp hread
    obtain rfl : path.source = inner := by simpa [Path.tag] using hinner
    obtain ⟨f, hf⟩ := exists_readSteps_eq_error hnames hlarge
    have hsteps := readSteps_of_spelledBy hspelled blanks_nil
    rw [List.append_nil] at hsteps
    exact absurd (hf.symm.trans hsteps) (by simp)
  · intro hfits
    exact ⟨⟨path.root.folded, path.rest.map Step.folded⟩, readTag_eq_ok_iff.mpr
      ⟨path.source, rfl, spellsSteps_map fun s hs =>
        Step.spelledBy_folded_source (hnames s hs) (hfits s hs)⟩⟩

/-! ## The lenient reader -/

/-- **Read leniently, an index that does not fit is left out**, and so is everything behind it. -/
theorem readPartialSteps_of_large {i : Nat} (hs : Run Text.isNameChar s.name.toList)
    (hindex : s.index = some i) (hi : maxIndex ≤ i) : ∀ {front : List Step},
    (∀ t ∈ front, Run Text.isNameChar t.name.toList) → (∀ t ∈ front, t.IndexFits) →
      readPartialSteps (stepsSource (front ++ s :: back)) =
        front.map Step.folded ++ [⟨Text.fold s.name, none⟩]
  | [], _, _ => by
    obtain ⟨f, hf⟩ := readIndexPart_of_large hi (endsStep_sourceBelow back)
    obtain ⟨htake, hdrop⟩ := takeWhile_source_append hs hindex (sourceBelow back)
    rw [List.nil_append, stepsSource_cons, readPartialSteps_of_error (by rw [htake]; exact hs.ne_nil)
      (by rw [hdrop]; exact hf), htake, String.ofList_toList]
    rfl
  | t :: front, hnames, hfits => by
    obtain ⟨ht, hfront⟩ := List.forall_mem_cons.mp hnames
    obtain ⟨htfits, hfits⟩ := List.forall_mem_cons.mp hfits
    obtain ⟨next, rest, hcons, hnext⟩ : ∃ next rest, front ++ s :: back = next :: rest ∧
        Run Text.isNameChar next.name.toList := by
      cases front with
      | nil => exact ⟨s, back, rfl, hs⟩
      | cons next front => exact ⟨next, front ++ s :: back, rfl, hfront next List.mem_cons_self⟩
    have ih := readPartialSteps_of_large hs hindex hi hfront hfits
    have hdot := readPartialSteps_of_spelledBy (Step.spelledBy_folded_source ht htfits) blanks_nil
      (stepsSource (front ++ s :: back))
    rw [hcons, skipBlanks_stepsSource hnext, ← hcons, ih] at hdot
    rw [List.cons_append, hcons, stepsSource_cons_cons, ← hcons]
    exact hdot

/-- What is read leniently is well-formed. -/
theorem wellFormed_of_mem_readPartial {cs : List Char} (h : s ∈ readPartial cs) : s.WellFormed := by
  obtain ⟨root, rest, hsteps⟩ := List.exists_cons_of_ne_nil (List.ne_nil_of_mem h)
  obtain ⟨written, more, -, hspells⟩ := exists_spelling_of_readPartialSteps _ hsteps
  rw [hsteps] at h
  obtain ⟨piece, hspelled⟩ := hspells.exists_spelledBy s h
  exact hspelled.wellFormed

end TagTemplates
