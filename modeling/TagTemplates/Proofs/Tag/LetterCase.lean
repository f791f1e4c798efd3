import TagTemplates.Proofs.Attempts
import TagTemplates.Proofs.Text.Basic
import TagTemplates.Tag.Reader

/-!
# The case of letters in tags

Folding a text before it is read makes no difference to the names and indices that are read, because
none of the classes of characters in the grammar tells an upper case letter from a lower case one.
What is left of the text, and the text that a fault is met in, are folded with it.

* `Text.Caseless`: a class of characters that holds a letter in both cases or in neither.
* `Fault.folded`: the fault that is met in the folded text.
* `readStep_foldChars`, `readSteps_foldChars`, `readPath_foldChars`: the readers and folding.
* `readPartial_foldChars`: the lenient reader and folding.
* `readPath_of_foldChars_eq`: texts that differ in the case of letters.
-/

namespace TagTemplates

/-! ## Classes of characters -/

namespace Text

/-- The class holds a letter in both cases or in neither. -/
def Caseless (p : Char → Bool) : Prop := ∀ c, p c.toLower = p c

/-- Folding moves the upper case letters only. -/
theorem toLower_cases (c : Char) : c.toLower = c ∨
    65 ≤ c.toNat ∧ c.toNat ≤ 90 ∧ c.toLower.toNat = c.toNat + 32 := by
  have hcode := toNat_toLower c
  by_cases hc : 65 ≤ c.toNat ∧ c.toNat ≤ 90
  · rw [if_pos hc] at hcode
    exact Or.inr ⟨hc.1, hc.2, hcode⟩
  · rw [if_neg hc] at hcode
    exact Or.inl (Char.toNat_inj.mp hcode)

/-- Nothing but itself is folded to a character that stands in no name. -/
theorem toLower_eq_iff {c d : Char} (hd : isNameChar d = false) : c.toLower = d ↔ c = d := by
  rcases toLower_cases c with h | ⟨hfirst, hlast, hcode⟩
  · rw [h]
  · have hname : isNameChar c = true := (isNameChar_iff c).mpr (Or.inl ⟨hfirst, hlast⟩)
    constructor
    · rintro rfl
      exact absurd (((isNameChar_toLower_iff c).mpr hname).symm.trans hd) (by simp)
    · rintro rfl
      exact absurd (hname.symm.trans hd) (by simp)

theorem caseless_beq {d : Char} (hd : isNameChar d = false) : Caseless (· == d) := by
  intro c
  rw [Bool.eq_iff_iff, beq_iff_eq, beq_iff_eq, toLower_eq_iff hd]

theorem caseless_isNameChar : Caseless isNameChar := fun c =>
  Bool.eq_iff_iff.mpr (isNameChar_toLower_iff c)

theorem caseless_isBlank : Caseless isBlank := by
  intro c
  show (c.toLower == ' ' || c.toLower == '\t') = (c == ' ' || c == '\t')
  have hspace : (c.toLower == ' ') = (c == ' ') := caseless_beq (by decide) c
  have htab : (c.toLower == '\t') = (c == '\t') := caseless_beq (by decide) c
  rw [hspace, htab]

/-- Digits have codes below those of the letters. -/
theorem toLower_of_isDigit {c : Char} (h : c.isDigit = true) : c.toLower = c := by
  have hlast : c.toNat ≤ 57 := (Char.isDigit_iff_toNat.mp h).2
  rcases toLower_cases c with hsame | ⟨hfirst, -, -⟩
  · exact hsame
  · omega

theorem caseless_isDigit : Caseless Char.isDigit := by
  intro c
  rcases toLower_cases c with h | ⟨hfirst, -, hcode⟩
  · rw [h]
  · have hletter : ∀ d : Char, 65 ≤ d.toNat → d.isDigit = false := by
      intro d hd
      refine Bool.eq_false_iff.mpr fun hdigit => ?_
      have hlast : d.toNat ≤ 57 := (Char.isDigit_iff_toNat.mp hdigit).2
      omega
    rw [hletter c hfirst, hletter c.toLower (by omega)]

theorem caseless_isSpace : Caseless isSpace := by
  intro c
  rcases toLower_cases c with h | ⟨hfirst, hlast, -⟩
  · rw [h]
  · have hname : isNameChar c = true := (isNameChar_iff c).mpr (Or.inl ⟨hfirst, hlast⟩)
    rw [isSpace_of_isNameChar hname, isSpace_of_isNameChar ((isNameChar_toLower_iff c).mpr hname)]

/-- A letter takes one byte in both cases. -/
theorem utf8Size_toLower (c : Char) : c.toLower.utf8Size = c.utf8Size := by
  have hone : ∀ d : Char, d.toNat ≤ 127 → d.utf8Size = 1 := fun d hd =>
    Char.utf8Size_eq_one_iff.mpr (UInt32.le_iff_toNat_le.mpr hd)
  rcases toLower_cases c with h | ⟨hfirst, hlast, hcode⟩
  · rw [h]
  · rw [hone c (by omega), hone c.toLower (by omega)]

/-! ## Folded texts -/

variable {p : Char → Bool}

@[simp] theorem foldChars_nil : foldChars [] = [] := rfl

@[simp] theorem foldChars_cons (c : Char) (cs : List Char) :
    foldChars (c :: cs) = c.toLower :: foldChars cs := rfl

@[simp] theorem isEmpty_foldChars (cs : List Char) : (foldChars cs).isEmpty = cs.isEmpty :=
  List.isEmpty_map

theorem fold_ofList (cs : List Char) : fold (String.ofList cs) = String.ofList (foldChars cs) := by
  rw [fold, String.toList_ofList]

@[simp] theorem utf8Size_foldChars : ∀ cs : List Char, utf8Size (foldChars cs) = utf8Size cs
  | [] => rfl
  | c :: cs => by
    rw [foldChars_cons, utf8Size_cons, utf8Size_cons, utf8Size_toLower, utf8Size_foldChars cs]

theorem takeWhile_foldChars (h : Caseless p) (cs : List Char) :
    (foldChars cs).takeWhile p = foldChars (cs.takeWhile p) := by
  have hp : p ∘ Char.toLower = p := funext h
  rw [foldChars, List.takeWhile_map, hp, foldChars]

theorem dropWhile_foldChars (h : Caseless p) (cs : List Char) :
    (foldChars cs).dropWhile p = foldChars (cs.dropWhile p) := by
  have hp : p ∘ Char.toLower = p := funext h
  rw [foldChars, List.dropWhile_map, hp, foldChars]

theorem trim_foldChars (cs : List Char) : trim (foldChars cs) = foldChars (trim cs) := by
  have hreverse : ∀ as : List Char, (foldChars as).reverse = foldChars as.reverse :=
    fun _ => List.map_reverse.symm
  rw [trim, trim, trimBoth, trimBoth, dropWhileEnd, dropWhileEnd,
    dropWhile_foldChars caseless_isSpace, hreverse, dropWhile_foldChars caseless_isSpace, hreverse]

end Text

/-! ## Faults -/

/-- The fault with the letters that it quotes folded. -/
def TagFault.folded : TagFault → TagFault
  | invalidIndex text => invalidIndex (Text.fold text)
  | unexpected c => unexpected c.toLower
  | kind => kind

/-- The fault as it is met in the folded text. -/
def Fault.folded (f : Fault) : Fault := ⟨f.kind.folded, Text.foldChars f.rest⟩

/-- A reading with the text that is left folded. -/
def foldRest {α : Type} (r : Except Fault (α × List Char)) : Except Fault (α × List Char) :=
  (r.map fun e => (e.1, Text.foldChars e.2)).mapError Fault.folded

theorem foldRest_ok {α : Type} (a : α) (rest : List Char) :
    foldRest (.ok (a, rest)) = .ok (a, Text.foldChars rest) := rfl

/-! ## The strict readers -/

theorem skipBlanks_foldChars (cs : List Char) :
    skipBlanks (Text.foldChars cs) = Text.foldChars (skipBlanks cs) :=
  Text.dropWhile_foldChars Text.caseless_isBlank cs

theorem caseless_isIndexText : Text.Caseless isIndexText := by
  intro c
  have hdot : (c.toLower != '.') = (c != '.') :=
    congrArg Bool.not (Text.caseless_beq (d := '.') (by decide) c)
  have hbrace : (c.toLower != '}') = (c != '}') :=
    congrArg Bool.not (Text.caseless_beq (d := '}') (by decide) c)
  rw [isIndexText, isIndexText, Text.caseless_isBlank, hdot, hbrace]

theorem readIndex_foldChars (cs : List Char) :
    readIndex (Text.foldChars cs) = foldRest (readIndex cs) := by
  have hdigits : Text.foldChars (cs.takeWhile Char.isDigit) = cs.takeWhile Char.isDigit := by
    have hsame : ∀ c ∈ cs.takeWhile Char.isDigit, c.toLower = id c :=
      fun c hc => Text.toLower_of_isDigit (List.all_eq_true.mp List.all_takeWhile c hc)
    rw [Text.foldChars, List.map_congr_left hsame, List.map_id]
  have htext : Text.fold (String.ofList (cs.takeWhile Char.isDigit)) =
      String.ofList (cs.takeWhile Char.isDigit) := by
    rw [Text.fold_ofList, hdigits]
  rw [readIndex, readIndex]
  simp only [Text.takeWhile_foldChars Text.caseless_isDigit, hdigits,
    Text.takeWhile_foldChars caseless_isIndexText, Text.dropWhile_foldChars Text.caseless_isDigit,
    Text.isEmpty_foldChars]
  split
  · split
    · rfl
    · rw [← Text.fold_ofList]
      rfl
  · split
    · show _ = Except.error (Fault.mk (.invalidIndex (Text.fold _)) _)
      rw [htext]
    · split <;> rfl

theorem readIndexPart_foldChars (cs : List Char) :
    readIndexPart (Text.foldChars cs) = foldRest (readIndexPart cs) := by
  rw [readIndexPart, readIndexPart, skipBlanks_foldChars]
  cases skipBlanks cs with
  | nil => rfl
  | cons c rest =>
    by_cases hc : c = ':'
    · subst hc
      have hcolon : Char.toLower ':' = ':' := by decide
      simp only [Text.foldChars_cons, hcolon, skipBlanks_foldChars, readIndex_foldChars]
      cases readIndex (skipBlanks rest) with
      | error f => rfl
      | ok e => rfl
    · have hlower : c.toLower ≠ ':' := fun h => hc ((Text.toLower_eq_iff (by decide)).mp h)
      simp only [Text.foldChars_cons]
      split
      · next heq => exact absurd (List.cons.inj heq).1 hlower
      · split
        · next heq => exact absurd (List.cons.inj heq).1 hc
        · rfl

/-- The name of a step is folded anyway. -/
theorem Step.make_foldChars (name : List Char) (index : Option Nat) :
    Step.make (String.ofList (Text.foldChars name)) index =
      Step.make (String.ofList name) index := by
  rw [Step.make, Step.make, ← Text.fold_ofList, Text.fold_fold]

theorem readStep_foldChars (cs : List Char) :
    readStep (Text.foldChars cs) = foldRest (readStep cs) := by
  rw [readStep, readStep]
  simp only [Text.takeWhile_foldChars Text.caseless_isNameChar,
    Text.dropWhile_foldChars Text.caseless_isNameChar, Text.isEmpty_foldChars,
    readIndexPart_foldChars]
  split
  · rfl
  · cases readIndexPart (cs.dropWhile Text.isNameChar) with
    | error f => rfl
    | ok e =>
      have hmake := Step.make_foldChars (cs.takeWhile Text.isNameChar) e.1
      exact congrArg (fun s => Except.ok (s, Text.foldChars e.2)) hmake

/-- **Steps are read from a folded text as from the text.**  By induction on the recursion of the
reader. -/
theorem readSteps_foldChars (cs : List Char) :
    readSteps (Text.foldChars cs) = (readSteps cs).mapError Fault.folded := by
  have hdot : ∀ c : Char, c.toLower = '.' ↔ c = '.' := fun c => Text.toLower_eq_iff (by decide)
  fun_induction readSteps cs with
  | case1 cs f hs =>
    rw [readSteps_eq, readStep_foldChars, hs]
    rfl
  | case2 cs step rest hs hr =>
    rw [readSteps_eq, readStep_foldChars, hs]
    simp only [foldRest_ok, skipBlanks_foldChars, hr, Text.foldChars_nil]
    rfl
  | case3 cs step rest hs more f hf hr ih =>
    rw [readSteps_eq, readStep_foldChars, hs]
    simp only [foldRest_ok, skipBlanks_foldChars, hr, Text.foldChars_cons]
    rw [if_pos ((hdot '.').mpr rfl), ih, hf]
    rfl
  | case4 cs step rest hs more next steps hnext hr ih =>
    rw [readSteps_eq, readStep_foldChars, hs]
    simp only [foldRest_ok, skipBlanks_foldChars, hr, Text.foldChars_cons]
    rw [if_pos ((hdot '.').mpr rfl), ih, hnext]
    rfl
  | case5 cs step rest hs c more hr hne =>
    rw [readSteps_eq, readStep_foldChars, hs]
    simp only [foldRest_ok, skipBlanks_foldChars, hr, Text.foldChars_cons]
    rw [if_neg fun h => hne ((hdot c).mp h)]
    rfl

/-- **Bare paths are read from a folded text as from the text.** -/
theorem readPath_foldChars (cs : List Char) :
    readPath (Text.foldChars cs) = (readPath cs).mapError Fault.folded := by
  rw [readPath, readPath, skipBlanks_foldChars, readSteps_foldChars]
  cases readSteps (skipBlanks cs) <;> rfl

/-- **Texts that differ in the case of letters are read alike**: as the same path, or both stop
with as much text left. -/
theorem readPath_of_foldChars_eq {cs ds : List Char} (h : Text.foldChars cs = Text.foldChars ds) :
    (∃ path, readPath cs = .ok path ∧ readPath ds = .ok path) ∨
      ∃ f g, readPath cs = .error f ∧ readPath ds = .error g ∧
        Text.utf8Size f.rest = Text.utf8Size g.rest := by
  have hread : (readPath cs).mapError Fault.folded = (readPath ds).mapError Fault.folded := by
    rw [← readPath_foldChars, ← readPath_foldChars, h]
  cases hcs : readPath cs with
  | ok path =>
    rw [hcs] at hread
    cases hds : readPath ds with
    | ok other =>
      rw [hds] at hread
      obtain rfl : path = other := Except.ok.inj hread
      exact Or.inl ⟨path, rfl, rfl⟩
    | error g =>
      rw [hds] at hread
      exact absurd (mapError_eq_ok_iff.mp hread.symm) nofun
  | error f =>
    rw [hcs] at hread
    cases hds : readPath ds with
    | ok other =>
      rw [hds] at hread
      exact absurd (mapError_eq_ok_iff.mp hread) nofun
    | error g =>
      rw [hds] at hread
      have hrest : Text.foldChars f.rest = Text.foldChars g.rest :=
        congrArg Fault.rest (Except.error.inj hread)
      refine Or.inr ⟨f, g, rfl, rfl, ?_⟩
      rw [← Text.utf8Size_foldChars, hrest, Text.utf8Size_foldChars]

/-! ## Text that is still being typed -/

/-- The lenient reader, without the proofs that it ends. -/
theorem readPartialSteps_eq (cs : List Char) : readPartialSteps cs =
    if cs.takeWhile Text.isNameChar = [] then []
    else
      match readIndexPart (cs.dropWhile Text.isNameChar) with
      | .error _ => [Step.make (String.ofList (cs.takeWhile Text.isNameChar))]
      | .ok (index, rest) =>
        Step.make (String.ofList (cs.takeWhile Text.isNameChar)) index ::
          match skipBlanks rest with
          | '.' :: more => readPartialSteps (skipBlanks more)
          | _ => [] := by
  rw [readPartialSteps]
  split
  · rfl
  · split
    · next f hp =>
      rw [hp]
      rfl
    · next index rest hp =>
      rw [hp]
      simp only
      split
      · next more hr =>
        rw [hr]
        rfl
      · next hother =>
        split
        · next more hr => exact absurd hr (hother more)
        · rfl

/-- The lenient reader of a folded text, by what is read from the text. -/
theorem readPartialSteps_foldChars_eq (cs : List Char) : readPartialSteps (Text.foldChars cs) =
    if cs.takeWhile Text.isNameChar = [] then []
    else
      match foldRest (readIndexPart (cs.dropWhile Text.isNameChar)) with
      | .error _ => [Step.make (String.ofList (cs.takeWhile Text.isNameChar))]
      | .ok (index, rest) =>
        Step.make (String.ofList (cs.takeWhile Text.isNameChar)) index ::
          match skipBlanks rest with
          | '.' :: more => readPartialSteps (skipBlanks more)
          | _ => [] := by
  have hname := Text.takeWhile_foldChars Text.caseless_isNameChar cs
  have hempty : Text.foldChars (cs.takeWhile Text.isNameChar) = [] ↔
      cs.takeWhile Text.isNameChar = [] := List.map_eq_nil_iff
  rw [readPartialSteps_eq, hname, Text.dropWhile_foldChars Text.caseless_isNameChar,
    readIndexPart_foldChars]
  simp only [Step.make_foldChars, hempty]

/-- Steps are read leniently from a folded text as from the text.  By induction on the recursion of
the reader. -/
theorem readPartialSteps_foldChars (cs : List Char) :
    readPartialSteps (Text.foldChars cs) = readPartialSteps cs := by
  have hdot : ∀ c : Char, c.toLower = '.' ↔ c = '.' := fun c => Text.toLower_eq_iff (by decide)
  induction cs using readPartialSteps.induct with
  | case1 cs name hn =>
    rw [readPartialSteps_foldChars_eq, readPartialSteps_eq, if_pos hn, if_pos hn]
  | case2 cs name hn f hp =>
    rw [readPartialSteps_foldChars_eq, readPartialSteps_eq, if_neg hn, if_neg hn, hp]
    rfl
  | case3 cs name hn index rest hp more hr ih =>
    rw [readPartialSteps_foldChars_eq, readPartialSteps_eq, if_neg hn, if_neg hn, hp]
    simp only [foldRest_ok, skipBlanks_foldChars, hr,
      Text.foldChars_cons, (hdot '.').mpr rfl, ih]
  | case4 cs name hn index rest hp hother =>
    rw [readPartialSteps_foldChars_eq, readPartialSteps_eq, if_neg hn, if_neg hn, hp]
    simp only [foldRest_ok, skipBlanks_foldChars]
    congr 1
    cases hr : skipBlanks rest with
    | nil => rfl
    | cons c more =>
      have hne : c ≠ '.' := fun hc => hother more (hc ▸ hr)
      simp only [Text.foldChars_cons]
      split
      · next heq => exact absurd ((hdot c).mp (List.cons.inj heq).1) hne
      · rfl

/-- **What is still being typed is read from a folded text as from the text.** -/
theorem readPartial_foldChars (cs : List Char) :
    readPartial (Text.foldChars cs) = readPartial cs := by
  rw [readPartial, readPartial, Text.trim_foldChars, readPartialSteps_foldChars]

end TagTemplates
