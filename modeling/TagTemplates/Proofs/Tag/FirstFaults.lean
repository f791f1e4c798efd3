import TagTemplates.Proofs.Tag.Faults

/-!
# Faults stand where they are reported

A bare path is read from left to right, and its reader stops where the text can no longer become a
path: what stands there is what the fault says, and what stands in front of it is the beginning of
some path.  Of two faults the first one is met.

* `ExpectsIndex`, `MaximalRun`, `TagFault.Fits`: what a fault says about the text around it, with
  `Fits.append_left` and `Fits.append_right` for more text on either side.
* `fits_of_readIndex`: an index that cannot be read.
* `Placed`: a fault of steps, the text in front of it, and that this text begins a path.
* `exists_placed_of_readStep`, `exists_placed_of_readSteps`: one step and several.
* `exists_place_of_read`: the fault of a bare path.
* `BeginsPath`, `BeginsTag`: the texts that can be completed to a path or to a tag, with
  `BeginsPath.beginsTag` for a brace in front.
-/

namespace TagTemplates

/-! ## What a fault says about the text around it -/

/-- An index is expected behind this text: blanks apart, it ends in a colon. -/
def ExpectsIndex (before : List Char) : Prop :=
  ∃ front gap, before = front ++ ':' :: gap ∧ Blanks gap

/-- A run of characters of a class that goes on neither to the left nor to the right. -/
structure MaximalRun (p : Char → Bool) (before run after : List Char) : Prop where
  run : Run p run
  left : Text.endsIn p before = false
  right : Text.beginsIn p after = false

/-- Whether a fault fits the text before and behind the place where it is reported. -/
def TagFault.Fits (before rest : List Char) : TagFault → Prop
  | unexpected c => rest.head? = some c
  | emptyName => Text.beginsIn Text.isNameChar rest = false
  | invalidIndex text => ExpectsIndex before ∧ text ≠ "" ∧ text.toList <+: rest
  | nonPositiveIndex => ExpectsIndex before ∧ ∃ zeros after, rest = zeros ++ after ∧
      MaximalRun Char.isDigit before zeros after ∧ ∀ c ∈ zeros, c = '0'
  | missingIndex => ExpectsIndex before ∧ Text.beginsIn Char.isDigit rest = false ∧
      Text.beginsIn isIndexText rest = false
  | unterminated => rest.head? = some '{'
  | missingBraces => False

variable {before rest : List Char}

theorem ExpectsIndex.append_left (h : ExpectsIndex before) (front : List Char) :
    ExpectsIndex (front ++ before) := by
  obtain ⟨more, gap, rfl, hgap⟩ := h
  exact ⟨front ++ more, gap, (List.append_assoc _ _ _).symm, hgap⟩

/-- No digit stands where an index is expected to begin. -/
theorem ExpectsIndex.endsIn_isDigit (h : ExpectsIndex before) :
    Text.endsIn Char.isDigit before = false := by
  obtain ⟨front, gap, rfl, hgap⟩ := h
  have hcolon : ∀ c ∈ ':' :: gap, (!c.isDigit) = true :=
    List.forall_mem_cons.mpr ⟨rfl, fun c hc => by rw [Text.isDigit_of_isBlank (hgap c hc)]; rfl⟩
  have hlast := Text.endsIn_append (Text.endsIn_of_forall (by simp) hcolon) front
  exact Text.endsIn_eq_false (fun c hc => by simpa using hc) hlast

/-- More text in front. -/
theorem TagFault.Fits.append_left {kind : TagFault} (h : kind.Fits before rest)
    (front : List Char) : kind.Fits (front ++ before) rest := by
  cases kind with
  | unexpected c => exact h
  | emptyName => exact h
  | unterminated => exact h
  | missingBraces => exact h
  | invalidIndex text => exact ⟨h.1.append_left front, h.2⟩
  | missingIndex => exact ⟨h.1.append_left front, h.2⟩
  | nonPositiveIndex =>
    obtain ⟨hexpects, zeros, after, hrest, hrun, hzeros⟩ := h
    have hfront := hexpects.append_left front
    exact ⟨hfront, zeros, after, hrest, ⟨hrun.run, hfront.endsIn_isDigit, hrun.right⟩, hzeros⟩

/-- A class that does not hold the next character does not begin the text. -/
theorem beginsIn_append_cons {p : Char → Bool} {c : Char} {cs : List Char}
    (h : Text.beginsIn p cs = false) (hc : p c = false) (more : List Char) :
    Text.beginsIn p (cs ++ c :: more) = false := by
  cases cs with
  | nil => exact hc
  | cons d cs => exact h

theorem head?_append_of_some {c : Char} {cs : List Char} (h : cs.head? = some c)
    (more : List Char) : (cs ++ more).head? = some c := by
  rw [List.head?_append, h, Option.some_or]

/-- A closing brace and more text behind. -/
theorem TagFault.Fits.append_right {kind : TagFault} (h : kind.Fits before rest)
    (after : List Char) : kind.Fits before (rest ++ '}' :: after) := by
  cases kind with
  | unexpected c => exact head?_append_of_some h _
  | emptyName => exact beginsIn_append_cons h rfl after
  | unterminated => exact head?_append_of_some h _
  | missingBraces => exact h
  | invalidIndex text => exact ⟨h.1, h.2.1, h.2.2.trans (List.prefix_append _ _)⟩
  | missingIndex =>
    exact ⟨h.1, beginsIn_append_cons h.2.1 rfl after, beginsIn_append_cons h.2.2 rfl after⟩
  | nonPositiveIndex =>
    obtain ⟨hexpects, zeros, more, rfl, hrun, hzeros⟩ := h
    exact ⟨hexpects, zeros, more ++ '}' :: after, List.append_assoc _ _ _,
      ⟨hrun.run, hrun.left, beginsIn_append_cons hrun.right rfl after⟩, hzeros⟩

/-! ## The index of a step -/

/-- Digits do not make a value smaller. -/
theorem le_foldl_digits (cs : List Char) : ∀ n : Nat,
    n ≤ cs.foldl (fun n c => 10 * n + (c.toNat - '0'.toNat)) n := by
  induction cs with
  | nil => exact Nat.le_refl
  | cons c cs ih =>
    intro n
    have hle := ih (10 * n + (c.toNat - '0'.toNat))
    rw [List.foldl_cons]
    omega

theorem digitsValue_le_append (cs more : List Char) :
    Text.digitsValue cs ≤ Text.digitsValue (cs ++ more) := by
  rw [Text.digitsValue, Text.digitsValue, List.foldl_append]
  exact le_foldl_digits more _

/-- Zeros in front of digits are worth nothing. -/
theorem digitsValue_zeros_append : ∀ {zeros : List Char}, (∀ c ∈ zeros, c = '0') →
    ∀ digits : List Char, Text.digitsValue (zeros ++ digits) = Text.digitsValue digits
  | [], _, _ => rfl
  | c :: zeros, h, digits => by
    obtain ⟨rfl, hzeros⟩ := List.forall_mem_cons.mp h
    exact digitsValue_zeros_append hzeros digits

/-- The only digits of value zero are zeros. -/
theorem eq_zero_of_digitsValue_eq_zero : ∀ {cs : List Char}, (∀ c ∈ cs, c.isDigit = true) →
    Text.digitsValue cs = 0 → ∀ c ∈ cs, c = '0'
  | [], _, _ => fun _ hc => absurd hc List.not_mem_nil
  | d :: cs, hdigits, hvalue => by
    obtain ⟨hd, hcs⟩ := List.forall_mem_cons.mp hdigits
    rw [Text.digitsValue, List.foldl_cons] at hvalue
    have hle := le_foldl_digits cs (10 * 0 + (d.toNat - '0'.toNat))
    have hzero : 10 * 0 + (d.toNat - '0'.toNat) = 0 := by
      rw [hvalue] at hle
      exact Nat.le_zero.mp hle
    have hd0 : d = '0' := by
      have hge : '0'.toNat ≤ d.toNat := by
        simp only [Char.isDigit, Bool.and_eq_true, decide_eq_true_eq] at hd
        exact hd.1
      exact Char.toNat_inj.mp (by omega)
    rw [hzero] at hvalue
    exact List.forall_mem_cons.mpr ⟨hd0, eq_zero_of_digitsValue_eq_zero hcs hvalue⟩

/-- A class none of whose characters is taken does not begin the text. -/
theorem beginsIn_of_takeWhile_isEmpty {p : Char → Bool} {cs : List Char}
    (h : (cs.takeWhile p).isEmpty = true) : Text.beginsIn p cs = false := by
  cases cs with
  | nil => rfl
  | cons c cs =>
    refine Bool.eq_false_iff.mpr fun hc => ?_
    have hp : p c = true := hc
    rw [List.takeWhile_cons, if_pos hp] at h
    exact absurd h (by simp)

/-- **An index that cannot be read is reported for what it is.** -/
theorem fits_of_readIndex {cs : List Char} {f : Fault} (h : readIndex cs = .error f)
    (hexpects : ExpectsIndex before) : f.kind.Fits before f.rest := by
  unfold readIndex at h
  simp only at h
  split at h
  · rename_i hdigits
    split at h
    · rename_i hjunk
      obtain rfl := Except.error.inj h
      exact ⟨hexpects, beginsIn_of_takeWhile_isEmpty hdigits, beginsIn_of_takeWhile_isEmpty hjunk⟩
    · rename_i hjunk
      obtain rfl := Except.error.inj h
      refine ⟨hexpects, fun hnil => hjunk ?_, ?_⟩
      · rw [← String.toList_ofList (l := cs.takeWhile isIndexText), hnil]
        rfl
      · rw [String.toList_ofList]
        exact List.takeWhile_prefix _
  · rename_i hdigits
    have hrun : Run Char.isDigit (cs.takeWhile Char.isDigit) := run_takeWhile (by simpa using hdigits)
    split at h
    · obtain rfl := Except.error.inj h
      refine ⟨hexpects, fun hnil => hrun.ne_nil ?_, ?_⟩
      · rw [← String.toList_ofList (l := cs.takeWhile Char.isDigit), hnil]
        rfl
      · rw [String.toList_ofList]
        exact List.takeWhile_prefix _
    · split at h
      · rename_i hvalue
        obtain rfl := Except.error.inj h
        exact ⟨hexpects, _, _, List.takeWhile_append_dropWhile.symm,
          ⟨hrun, hexpects.endsIn_isDigit, Text.head?_dropWhile_any Char.isDigit cs⟩,
          eq_zero_of_digitsValue_eq_zero hrun.all hvalue⟩
      · exact absurd h (by simp)

/-! ## Steps -/

/-- A text that can be completed to a path. -/
def BeginsPath (front : List Char) : Prop :=
  ∃ more root steps, SpellsSteps root steps (front ++ more)

/-- A fault of steps in its place: it fits the text there, and the text before it begins a path.  An
index of zeros is not positive yet, but more digits may follow. -/
structure Placed (f : Fault) (cs before : List Char) : Prop where
  text_eq : cs = before ++ f.rest
  fits : f.kind.Fits before f.rest
  begins : BeginsPath before
  zeros : f.kind = .nonPositiveIndex → ∀ zeros, (∀ c ∈ zeros, c = '0') →
    BeginsPath (before ++ zeros)

variable {cs : List Char} {f : Fault}

/-- What a path is spelled by begins with any text in front of it. -/
theorem SpellsSteps.beginsPath {root : Step} {steps : List Step} {written front : List Char}
    (h : SpellsSteps root steps written) (more : List Char) (hwritten : written = front ++ more) :
    BeginsPath front :=
  ⟨more, root, steps, hwritten ▸ h⟩

/-- Any name begins a step, and any name character is a name. -/
theorem spelledBy_of_run {name : List Char} (h : Run Text.isNameChar name) :
    (Step.make (String.ofList name)).SpelledBy name := by
  have hspelled := Step.SpelledBy.intro h SpellsIndex.absent
  rwa [List.append_nil] at hspelled

theorem run_singleton {p : Char → Bool} {c : Char} (h : p c = true) : Run p [c] :=
  ⟨by simp, List.forall_mem_singleton.mpr h⟩

/-- The shortest name. -/
theorem spelledBy_a : (Step.make "a").SpelledBy ['a'] :=
  spelledBy_of_run (run_singleton (by decide))

/-- A step in front of the beginning of a path. -/
theorem BeginsPath.dot {s : Step} {written gap after front : List Char} (hs : s.SpelledBy written)
    (hgap : Blanks gap) (hafter : Blanks after) (h : BeginsPath front) :
    BeginsPath (written ++ (gap ++ '.' :: (after ++ front))) := by
  obtain ⟨more, root, steps, hspells⟩ := h
  refine (SpellsSteps.dot hs hgap hafter hspells).beginsPath more ?_
  simp only [List.append_assoc, List.cons_append]

/-- The first index, behind a colon and with zeros in front. -/
theorem spellsIndex_one {gap after zeros : List Char} (hgap : Blanks gap) (hafter : Blanks after)
    (hzeros : ∀ c ∈ zeros, c = '0') :
    SpellsIndex (some 0) (gap ++ ':' :: (after ++ (zeros ++ ['1']))) := by
  have hdigits : Run Char.isDigit (zeros ++ ['1']) := by
    refine ⟨by simp, List.forall_mem_append.mpr ⟨fun c hc => ?_, by simp⟩⟩
    rw [hzeros c hc]
    rfl
  have hvalue : Text.digitsValue (zeros ++ ['1']) = 1 := digitsValue_zeros_append hzeros ['1']
  have hspells := SpellsIndex.written hgap hafter hdigits (by omega) (by rw [hvalue]; decide)
  rwa [hvalue] at hspells

/-- An index that cannot be read stands behind a colon. -/
theorem exists_colon_of_readIndexPart (h : readIndexPart cs = .error f) :
    ∃ gap after, cs = gap ++ ':' :: (after ++ f.rest) ∧ Blanks gap ∧ Blanks after ∧
      f.kind.Fits (gap ++ ':' :: after) f.rest := by
  obtain ⟨gap, hgap, hcs⟩ := exists_blanks_skipBlanks cs
  unfold readIndexPart at h
  split at h
  · rename_i more hcolon
    split at h
    · rename_i g hread
      obtain rfl := Except.error.inj h
      obtain ⟨after, hafter, hmore⟩ := exists_blanks_skipBlanks more
      refine ⟨gap, after, ?_, hgap, hafter, fits_of_readIndex hread ⟨gap, after, rfl, hafter⟩⟩
      rw [rest_eq_of_readIndex hread, ← hmore, ← hcolon]
      exact hcs
    · exact absurd h (by simp)
  · exact absurd h (by simp)

/-- **The fault of a step, in its place.** -/
theorem exists_placed_of_readStep (h : readStep cs = .error f) : ∃ before, Placed f cs before := by
  unfold readStep at h
  simp only at h
  split at h
  · rename_i hname
    obtain rfl := Except.error.inj h
    exact ⟨[], rfl, beginsIn_of_takeWhile_isEmpty hname,
      (SpellsSteps.last spelledBy_a).beginsPath ['a'] rfl, fun hkind => absurd hkind (by simp)⟩
  · rename_i hname
    have hrun : Run Text.isNameChar (cs.takeWhile Text.isNameChar) :=
      run_takeWhile (by simpa using hname)
    split at h
    · rename_i g hindex
      obtain rfl := Except.error.inj h
      obtain ⟨gap, after, hdrop, hgap, hafter, hfits⟩ := exists_colon_of_readIndexPart hindex
      have hbegins : ∀ zeros : List Char, (∀ c ∈ zeros, c = '0') →
          BeginsPath (cs.takeWhile Text.isNameChar ++ (gap ++ ':' :: after) ++ zeros) := by
        intro zeros hzeros
        have hspelled := Step.SpelledBy.intro hrun (spellsIndex_one hgap hafter hzeros)
        refine (SpellsSteps.last hspelled).beginsPath ['1'] ?_
        simp only [List.append_assoc, List.cons_append]
      have hnone := hbegins [] fun c hc => absurd hc List.not_mem_nil
      rw [List.append_nil] at hnone
      refine ⟨_, ?_, hfits.append_left _, hnone, fun _ => hbegins⟩
      have hcs := List.takeWhile_append_dropWhile (p := Text.isNameChar) (l := cs)
      rw [hdrop] at hcs
      simpa only [List.append_assoc, List.cons_append] using hcs.symm
    · exact absurd h (by simp)

/-- **The fault of steps, in its place.**  By induction on the recursion of the reader: the steps in
front of the fault are spelled, and what begins the last one is completed. -/
theorem exists_placed_of_readSteps (cs : List Char) : ∀ {f : Fault}, readSteps cs = .error f →
    ∃ before, Placed f cs before := by
  fun_induction readSteps cs with
  | case1 cs g hs =>
    intro f h
    obtain rfl := Except.error.inj h
    exact exists_placed_of_readStep hs
  | case2 cs step rest hs hr =>
    intro f h
    exact absurd h (by simp)
  | case3 cs step rest hs more g hg hr ih =>
    intro f h
    obtain rfl := Except.error.inj h
    obtain ⟨written, gap, hcs, hgap, hspelled⟩ := spelledBy_of_readStep hs
    obtain ⟨gap', hgap', hrest⟩ := exists_blanks_skipBlanks rest
    obtain ⟨after, hafter, hmore⟩ := exists_blanks_skipBlanks more
    obtain ⟨before, htext, hfits, hbegins, hzeros⟩ := ih hg
    have hblanks : Blanks (gap ++ gap') := blanks_append.mpr ⟨hgap, hgap'⟩
    refine ⟨written ++ ((gap ++ gap') ++ '.' :: (after ++ before)), ?_, ?_,
      hbegins.dot hspelled hblanks hafter, fun hkind zeros hall => ?_⟩
    · calc cs = written ++ (gap ++ rest) := hcs
        _ = written ++ (gap ++ (gap' ++ '.' :: (after ++ (before ++ g.rest)))) := by
            rw [hrest, hr, hmore, htext]
        _ = _ := by simp only [List.append_assoc, List.cons_append]
    · have hfront := hfits.append_left (written ++ ((gap ++ gap') ++ '.' :: after))
      simpa only [List.append_assoc, List.cons_append] using hfront
    · have hdot := (hzeros hkind zeros hall).dot hspelled hblanks hafter
      simpa only [List.append_assoc, List.cons_append] using hdot
  | case4 cs step rest hs more next steps hnext hr ih =>
    intro f h
    exact absurd h (by simp)
  | case5 cs step rest hs c more hr hne =>
    intro f h
    obtain rfl := Except.error.inj h
    obtain ⟨written, gap, hcs, hgap, hspelled⟩ := spelledBy_of_readStep hs
    obtain ⟨gap', hgap', hrest⟩ := exists_blanks_skipBlanks rest
    have hdot := SpellsSteps.dot hspelled (blanks_append.mpr ⟨hgap, hgap'⟩) blanks_nil
      (.last spelledBy_a)
    refine ⟨written ++ (gap ++ gap'), ?_, rfl, hdot.beginsPath ['.', 'a'] ?_,
      fun hkind => absurd hkind (by simp)⟩
    · rw [hcs, hrest, hr]
      simp only [List.append_assoc]
    · exact (List.append_assoc _ _ _).symm

/-! ## Bare paths -/

/-- **The fault of a bare path**: behind blanks, text that begins a path, and what is at fault. -/
theorem exists_place_of_read {e : TagError} (h : Path.read cs = .error e) :
    ∃ gap before rest, cs = gap ++ (before ++ rest) ∧ Blanks gap ∧
      e.offset = Text.utf8Size (gap ++ before) ∧ e.kind.Fits before rest ∧ BeginsPath before := by
  obtain ⟨f, hread, hkind, hoffset⟩ := read_eq_error_iff.mp h
  obtain ⟨gap, hgap, hcs⟩ := exists_blanks_skipBlanks cs
  rw [readPath] at hread
  split at hread
  · rename_i g hsteps
    obtain rfl := Except.error.inj hread
    obtain ⟨before, htext, hfits, hbegins, -⟩ := exists_placed_of_readSteps _ hsteps
    rw [htext] at hcs
    refine ⟨gap, before, g.rest, hcs, hgap, ?_, hkind ▸ hfits, hbegins⟩
    rw [hcs, ← List.append_assoc, Text.utf8Size_append] at hoffset
    omega
  · exact absurd hread (by simp)

/-! ## Tags -/

/-- A text that can be completed to a tag. -/
def BeginsTag (front : List Char) : Prop := ∃ more path, Path.readTag (front ++ more) = .ok path

/-- A completed path in braces is a tag. -/
theorem BeginsPath.beginsTag {front : List Char} (h : BeginsPath front) :
    BeginsTag ('{' :: front) := by
  obtain ⟨more, root, steps, hspells⟩ := h
  refine ⟨more ++ ['}'], ⟨root, steps⟩, readTag_eq_ok_iff.mpr ⟨front ++ more, ?_, hspells⟩⟩
  rw [List.cons_append, List.append_assoc]

/-- Any tag begins with a brace. -/
theorem beginsTag_brace : BeginsTag ['{'] :=
  ((SpellsSteps.last spelledBy_a).beginsPath ['a'] rfl : BeginsPath []).beginsTag

end TagTemplates
