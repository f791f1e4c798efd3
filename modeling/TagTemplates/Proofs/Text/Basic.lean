import TagTemplates.Text.Basic

/-!
# Facts about text

What the readers and look-ups take for granted about text.

* `fold_fold`: folding a folded name changes nothing.
* `isNameChar_toLower_iff`: folding keeps a text inside or outside the characters of names.
* `isNameChar_of_isDigit`, `isBlank_of_isNameChar`: digits are name characters, and blanks are not.
* `mem_sortedOnce`, `pairwise_sortedOnce`: sorting names, each once, keeps exactly the names, and
  they go up.
* `trim_trim`: trimming a trimmed text changes nothing.
* `exists_trim_append`: what trimming takes away is white space.
* `takeWhile_append_of_head?`, `dropWhile_append_of_head?`: a run of characters is read up to its
  end.
* `cutAt?_append`, `eq_append_of_cutAt?`: a text is cut off at the first occurrence of a character.
* `splitChar_append`, `splitChar_joinWith`: texts that are joined by a character are cut apart there.
* `readInt?_natDigits`: the digits of a number are read back as the number.
-/

namespace TagTemplates.Text

/-! ## Folding -/

/-- The code of a folded character. -/
theorem toNat_toLower (c : Char) :
    c.toLower.toNat = if 65 ≤ c.toNat ∧ c.toNat ≤ 90 then c.toNat + 32 else c.toNat := by
  have hiff : (c.val ≥ 'A'.val ∧ c.val ≤ 'Z'.val) ↔ (65 ≤ c.toNat ∧ c.toNat ≤ 90) := by
    rw [ge_iff_le, UInt32.le_iff_toNat_le, UInt32.le_iff_toNat_le]
    exact Iff.rfl
  by_cases h : 65 ≤ c.toNat ∧ c.toNat ≤ 90
  · unfold Char.toLower
    rw [if_pos h, dif_pos (hiff.mpr h)]
    show (c.val + ('a'.val - 'A'.val)).toNat = c.toNat + 32
    rw [UInt32.toNat_add]
    show (c.toNat + 32) % 4294967296 = c.toNat + 32
    omega
  · unfold Char.toLower
    rw [if_neg h, dif_neg fun hc => h (hiff.mp hc)]

theorem toLower_toLower (c : Char) : c.toLower.toLower = c.toLower := by
  apply Char.toNat_inj.mp
  have h := toNat_toLower c
  rw [toNat_toLower c.toLower]
  by_cases hc : 65 ≤ c.toNat ∧ c.toNat ≤ 90
  · rw [if_pos hc] at h
    rw [if_neg (by omega)]
  · rw [if_neg hc] at h
    rw [h, if_neg hc]

@[simp] theorem foldChars_foldChars (cs : List Char) : foldChars (foldChars cs) = foldChars cs := by
  unfold foldChars
  rw [List.map_map]
  exact List.map_congr_left fun c _ => toLower_toLower c

@[simp] theorem fold_fold (s : String) : fold (fold s) = fold s := by
  unfold fold
  rw [String.toList_ofList, foldChars_foldChars]

/-! ## Character classes -/

/-- A character is a name character exactly when its code lies in one of four ranges. -/
theorem isNameChar_iff (c : Char) : isNameChar c = true ↔
    65 ≤ c.toNat ∧ c.toNat ≤ 90 ∨ 97 ≤ c.toNat ∧ c.toNat ≤ 122 ∨ 48 ≤ c.toNat ∧ c.toNat ≤ 57 ∨
      c.toNat = 95 := by
  have hunder : c = '_' ↔ c.toNat = 95 := Char.toNat_inj.symm
  unfold isNameChar Char.isAlphanum Char.isAlpha Char.isUpper Char.isLower Char.isDigit
  simp only [Bool.or_eq_true, Bool.and_eq_true, decide_eq_true_eq, beq_iff_eq, hunder,
    UInt32.le_iff_toNat_le, ge_iff_le]
  show ((65 ≤ c.toNat ∧ c.toNat ≤ 90 ∨ 97 ≤ c.toNat ∧ c.toNat ≤ 122) ∨
    48 ≤ c.toNat ∧ c.toNat ≤ 57) ∨ c.toNat = 95 ↔ _
  omega

theorem isNameChar_toLower_iff (c : Char) : isNameChar c.toLower = true ↔ isNameChar c = true := by
  rw [isNameChar_iff, isNameChar_iff, toNat_toLower]
  split <;> omega

theorem isNameChar_of_isDigit {c : Char} (h : c.isDigit = true) : isNameChar c = true := by
  rw [isNameChar, Char.isAlphanum, h, Bool.or_true, Bool.true_or]

theorem isNameChar_of_isBlank {c : Char} (h : isBlank c = true) : isNameChar c = false := by
  rcases Bool.or_eq_true_iff.mp h with hc | hc
  · rw [beq_iff_eq.mp hc]
    decide
  · rw [beq_iff_eq.mp hc]
    decide

theorem isDigit_of_isBlank {c : Char} (h : isBlank c = true) : c.isDigit = false := by
  refine Bool.eq_false_iff.mpr fun hdigit => ?_
  exact absurd ((isNameChar_of_isDigit hdigit).symm.trans (isNameChar_of_isBlank h)) (by simp)

theorem isSpace_of_isBlank {c : Char} (h : isBlank c = true) : isSpace c = true := by
  rcases Bool.or_eq_true_iff.mp h with hc | hc
  · rw [beq_iff_eq.mp hc]
    decide
  · rw [beq_iff_eq.mp hc]
    decide

/-- White space, and so every blank, has codes outside the four ranges. -/
theorem isSpace_of_isNameChar {c : Char} (h : isNameChar c = true) : isSpace c = false := by
  have hcode := (isNameChar_iff c).mp h
  simp only [isSpace, Bool.or_eq_false_iff, Bool.and_eq_false_iff, beq_eq_false_iff_ne, ne_eq,
    decide_eq_false_iff_not]
  omega

theorem isBlank_of_isNameChar {c : Char} (h : isNameChar c = true) : isBlank c = false := by
  refine Bool.eq_false_iff.mpr fun hblank => ?_
  exact absurd (h.symm.trans (isNameChar_of_isBlank hblank)) (by simp)

/-! ## Sorting -/

theorem mem_dropRepeats {a : String} : ∀ {names : List String}, a ∈ dropRepeats names ↔ a ∈ names
  | [] => Iff.rfl
  | [_] => Iff.rfl
  | x :: y :: rest => by
    have ih : a ∈ dropRepeats (y :: rest) ↔ a ∈ y :: rest := mem_dropRepeats
    rw [dropRepeats]
    by_cases h : x = y
    · subst h
      rw [if_pos rfl, ih]
      exact ⟨List.mem_cons_of_mem x, fun hm => (List.mem_cons.mp hm).elim
        (fun he => he ▸ List.mem_cons_self) id⟩
    · rw [if_neg h, List.mem_cons, ih, ← List.mem_cons]

theorem mem_sortedOnce {a : String} {names : List String} : a ∈ sortedOnce names ↔ a ∈ names := by
  rw [sortedOnce, mem_dropRepeats]
  exact (List.mergeSort_perm names _).mem_iff

/-- The comparison that names are sorted by is transitive. -/
theorem decide_le_trans (a b c : String) (hab : decide (a ≤ b) = true)
    (hbc : decide (b ≤ c) = true) : decide (a ≤ c) = true :=
  decide_eq_true (String.le_trans (of_decide_eq_true hab) (of_decide_eq_true hbc))

/-- The comparison that names are sorted by is total. -/
theorem decide_le_total (a b : String) : (decide (a ≤ b) || decide (b ≤ a)) = true := by
  rcases String.le_total a b with hle | hle
  · rw [decide_eq_true hle, Bool.true_or]
  · rw [decide_eq_true hle, Bool.or_true]

/-- Sorting puts no name behind a larger one. -/
theorem pairwise_mergeSort (names : List String) :
    (names.mergeSort fun a b => decide (a ≤ b)).Pairwise fun a b => decide (a ≤ b) = true :=
  List.pairwise_mergeSort decide_le_trans decide_le_total names

theorem pairwise_dropRepeats : ∀ {names : List String},
    names.Pairwise (fun a b => decide (a ≤ b) = true) → (dropRepeats names).Pairwise (· < ·)
  | [], _ => List.Pairwise.nil
  | [a], _ => List.pairwise_singleton _ a
  | a :: b :: rest, h => by
    obtain ⟨hfirst, hrest⟩ := List.pairwise_cons.mp h
    have ih := pairwise_dropRepeats hrest
    rw [dropRepeats]
    by_cases hab : a = b
    · rw [if_pos hab]
      exact ih
    · rw [if_neg hab]
      refine List.pairwise_cons.mpr ⟨fun c hc => ?_, ih⟩
      -- a name behind `b` is no smaller than `b`, so it is not `a` either
      have hc := mem_dropRepeats.mp hc
      have hle : a ≤ b := of_decide_eq_true (hfirst b List.mem_cons_self)
      have hbc : b ≤ c := by
        rcases List.mem_cons.mp hc with rfl | hc
        · exact String.le_refl c
        · exact of_decide_eq_true ((List.pairwise_cons.mp hrest).1 c hc)
      refine String.not_le.mp fun hca => hab ?_
      exact String.le_antisymm hle (String.le_trans hbc hca)

/-- **Names that are sorted, each once, go up.** -/
theorem pairwise_sortedOnce (names : List String) : (sortedOnce names).Pairwise (· < ·) :=
  pairwise_dropRepeats (pairwise_mergeSort names)

@[simp] theorem sortedOnce_singleton (a : String) : sortedOnce [a] = [a] := by
  rw [sortedOnce, List.mergeSort_singleton, dropRepeats]

/-! ## Trimming -/

theorem dropWhile_eq_self {p : Char → Bool} {cs : List Char} (h : cs.head?.any p = false) :
    cs.dropWhile p = cs := by
  cases cs with
  | nil => rfl
  | cons c cs =>
    rw [List.dropWhile_cons, if_neg]
    simpa using h

theorem head?_dropWhile_any (p : Char → Bool) (cs : List Char) :
    (cs.dropWhile p).head?.any p = false := by
  induction cs with
  | nil => rfl
  | cons c cs ih =>
    rw [List.dropWhile_cons]
    by_cases h : p c = true
    · rw [if_pos h]
      exact ih
    · rw [if_neg h]
      simpa using h

/-- A text is what is left after dropping from its end, and a run of what was dropped. -/
theorem exists_dropWhileEnd_append (p : Char → Bool) (cs : List Char) :
    ∃ run, cs = dropWhileEnd p cs ++ run ∧ ∀ c ∈ run, p c = true := by
  refine ⟨(cs.reverse.takeWhile p).reverse, ?_, fun c hc => ?_⟩
  · rw [dropWhileEnd, ← List.reverse_append, List.takeWhile_append_dropWhile, List.reverse_reverse]
  · exact List.all_eq_true.mp List.all_takeWhile c (List.mem_reverse.mp hc)

/-- What is left at the front after dropping from the end was there before. -/
theorem head?_dropWhileEnd_any {p : Char → Bool} {cs : List Char} (h : cs.head?.any p = false) :
    (dropWhileEnd p cs).head?.any p = false := by
  obtain ⟨run, hcs, -⟩ := exists_dropWhileEnd_append p cs
  cases hleft : dropWhileEnd p cs with
  | nil => rfl
  | cons c rest =>
    rw [hcs, hleft] at h
    exact h

theorem trimBoth_trimBoth (p : Char → Bool) (cs : List Char) :
    trimBoth p (trimBoth p cs) = trimBoth p cs := by
  unfold trimBoth
  rw [dropWhile_eq_self (head?_dropWhileEnd_any (head?_dropWhile_any p cs))]
  unfold dropWhileEnd
  rw [List.reverse_reverse, dropWhile_eq_self (head?_dropWhile_any p _)]

@[simp] theorem trim_trim (cs : List Char) : trim (trim cs) = trim cs :=
  trimBoth_trimBoth isSpace cs

/-- A text is what is left after trimming it, between white space. -/
theorem exists_trim_append (cs : List Char) : ∃ before after,
    cs = before ++ (trim cs ++ after) ∧ (∀ c ∈ before, isSpace c = true) ∧
      ∀ c ∈ after, isSpace c = true := by
  obtain ⟨after, hcs, hafter⟩ := exists_dropWhileEnd_append isSpace (cs.dropWhile isSpace)
  refine ⟨cs.takeWhile isSpace, after, ?_, List.all_eq_true.mp List.all_takeWhile, hafter⟩
  rw [trim, trimBoth, ← hcs, List.takeWhile_append_dropWhile]

/-! ## Runs of characters -/

/-- A text that ends in a class does so behind any other text. -/
theorem endsIn_append {p : Char → Bool} {cs : List Char} (h : endsIn p cs = true)
    (front : List Char) : endsIn p (front ++ cs) = true := by
  rw [endsIn] at h
  rw [endsIn, List.getLast?_append]
  cases hlast : cs.getLast? with
  | none =>
    rw [hlast] at h
    exact absurd h (by simp)
  | some c =>
    rw [hlast] at h
    exact h

/-- A nonempty run of characters of a class ends in the class. -/
theorem endsIn_of_forall {p : Char → Bool} {cs : List Char} (hne : cs ≠ [])
    (h : ∀ c ∈ cs, p c = true) : endsIn p cs = true := by
  rw [endsIn, List.getLast?_eq_some_getLast hne]
  exact h _ (List.getLast_mem hne)

/-- A text that ends in a class does not end in one that shares no character with it. -/
theorem endsIn_eq_false {p q : Char → Bool} (hpq : ∀ c, p c = true → q c = false) {cs : List Char}
    (h : endsIn p cs = true) : endsIn q cs = false := by
  rw [endsIn] at h ⊢
  cases hlast : cs.getLast? with
  | none => rfl
  | some c =>
    rw [hlast] at h
    exact hpq c h

/-- No blank ends a text that a name character ends. -/
theorem endsIn_isBlank {cs : List Char} (h : endsIn isNameChar cs = true) :
    endsIn isBlank cs = false :=
  endsIn_eq_false (fun _ => isBlank_of_isNameChar) h

theorem takeWhile_append_of_head? {p : Char → Bool} {run rest : List Char}
    (hrun : ∀ c ∈ run, p c = true) (hrest : rest.head?.any p = false) :
    (run ++ rest).takeWhile p = run := by
  rw [List.takeWhile_append_of_pos hrun]
  cases rest with
  | nil => rw [List.takeWhile_nil, List.append_nil]
  | cons c rest =>
    have hc : ¬p c = true := by simpa using hrest
    rw [List.takeWhile_cons, if_neg hc, List.append_nil]

theorem dropWhile_append_of_head? {p : Char → Bool} {run rest : List Char}
    (hrun : ∀ c ∈ run, p c = true) (hrest : rest.head?.any p = false) :
    (run ++ rest).dropWhile p = rest := by
  rw [List.dropWhile_append_of_pos hrun, dropWhile_eq_self hrest]

/-- White space around a text is trimmed, and no more. -/
theorem trim_append {before written after : List Char} (hbefore : ∀ c ∈ before, isSpace c = true)
    (hafter : ∀ c ∈ after, isSpace c = true) (hne : written ≠ [])
    (hbegins : beginsIn isSpace written = false) (hends : endsIn isSpace written = false) :
    trim (before ++ (written ++ after)) = written := by
  have hfront : (written ++ after).head?.any isSpace = false := by
    obtain ⟨c, more, rfl⟩ := List.exists_cons_of_ne_nil hne
    exact hbegins
  have hback : written.reverse.head?.any isSpace = false := by
    rw [List.head?_reverse]
    exact hends
  have hrun : ∀ c ∈ after.reverse, isSpace c = true :=
    fun c hc => hafter c (List.mem_reverse.mp hc)
  rw [trim, trimBoth, dropWhile_append_of_head? hbefore hfront, dropWhileEnd, List.reverse_append,
    dropWhile_append_of_head? hrun hback, List.reverse_reverse]

/-- Nothing is left of white space. -/
theorem trim_of_forall {cs : List Char} (h : ∀ c ∈ cs, isSpace c = true) : trim cs = [] := by
  have hdrop : (cs ++ []).dropWhile isSpace = [] := dropWhile_append_of_head? h rfl
  rw [List.append_nil] at hdrop
  rw [trim, trimBoth, hdrop]
  rfl

/-- The text before the first occurrence of a character is cut off. -/
theorem cutAt?_append {sep : Char} {before : List Char} (h : sep ∉ before) (after : List Char) :
    cutAt? sep (before ++ sep :: after) = some (before, after) := by
  have hrun : ∀ c ∈ before, (c != sep) = true := by
    intro c hc
    rw [bne_iff_ne]
    rintro rfl
    exact h hc
  have hrest : (sep :: after).head?.any (· != sep) = false := by simp
  rw [cutAt?, dropWhile_append_of_head? hrun hrest, takeWhile_append_of_head? hrun hrest]

/-- What is cut off is the text before the first occurrence of the character. -/
theorem eq_append_of_cutAt? {sep : Char} {cs before after : List Char}
    (h : cutAt? sep cs = some (before, after)) : cs = before ++ sep :: after ∧ sep ∉ before := by
  unfold cutAt? at h
  split at h
  · exact absurd h (by simp)
  · rename_i c rest hdrop
    obtain ⟨rfl, rfl⟩ := Prod.mk.inj (Option.some.inj h)
    have hstop := head?_dropWhile_any (· != sep) cs
    rw [hdrop] at hstop
    obtain rfl : c = sep := by simpa using hstop
    refine ⟨?_, fun hmem => ?_⟩
    · rw [← hdrop, List.takeWhile_append_dropWhile]
    · exact absurd (List.all_eq_true.mp List.all_takeWhile c hmem) (by simp)

/-- Nothing is cut off at a character that does not occur. -/
theorem cutAt?_of_notMem {sep : Char} {cs : List Char} (h : sep ∉ cs) : cutAt? sep cs = none := by
  cases hcut : cutAt? sep cs with
  | none => rfl
  | some cut =>
    obtain ⟨rfl, -⟩ := eq_append_of_cutAt? hcut
    exact absurd (List.mem_append_right _ List.mem_cons_self) h

theorem splitChar_ne_nil (sep : Char) (cs : List Char) : splitChar sep cs ≠ [] := by
  cases cs with
  | nil => exact List.cons_ne_nil _ _
  | cons c cs =>
    rw [splitChar]
    split
    · exact List.cons_ne_nil _ _
    · split
      · exact List.cons_ne_nil _ _
      · exact List.cons_ne_nil _ _

/-- A character cuts a text apart where it stands. -/
theorem splitChar_append (sep : Char) : ∀ before after : List Char,
    splitChar sep (before ++ sep :: after) = splitChar sep before ++ splitChar sep after
  | [], after => by
    show splitChar sep (sep :: after) = [] :: splitChar sep after
    rw [splitChar, if_pos rfl]
  | c :: before, after => by
    rw [List.cons_append, splitChar, splitChar, splitChar_append sep before after]
    by_cases hc : c = sep
    · rw [if_pos hc, if_pos hc]
      rfl
    · rw [if_neg hc, if_neg hc]
      cases hsplit : splitChar sep before with
      | nil => exact absurd hsplit (splitChar_ne_nil sep before)
      | cons piece pieces => rfl

theorem splitChar_of_notMem {sep : Char} : ∀ {cs : List Char}, sep ∉ cs → splitChar sep cs = [cs]
  | [], _ => rfl
  | c :: cs, h => by
    obtain ⟨hc, hcs⟩ := not_or.mp fun hor => h (List.mem_cons.mpr hor)
    rw [splitChar, if_neg fun heq => hc heq.symm, splitChar_of_notMem hcs]

/-- Texts that are joined by a character are cut apart there. -/
theorem splitChar_joinWith {sep : Char} : ∀ {pieces : List (List Char)}, pieces ≠ [] →
    (∀ piece ∈ pieces, sep ∉ piece) → splitChar sep (joinWith [sep] pieces) = pieces
  | [piece], _, h => splitChar_of_notMem (h piece List.mem_cons_self)
  | piece :: next :: rest, _, h => by
    obtain ⟨hpiece, hrest⟩ := List.forall_mem_cons.mp h
    rw [joinWith, List.append_assoc, List.singleton_append, splitChar_append,
      splitChar_of_notMem hpiece, splitChar_joinWith (List.cons_ne_nil next rest) hrest,
      List.singleton_append]

/-! ## Digits -/

theorem natDigits_ne_nil (n : Nat) : natDigits n ≠ [] := Nat.toDigits_ne_nil

theorem isDigit_of_mem_natDigits {n : Nat} {c : Char} (h : c ∈ natDigits n) : c.isDigit = true :=
  Nat.isDigit_of_mem_toDigits (by omega) (by omega) h

theorem digitsValue_natDigits (n : Nat) : digitsValue (natDigits n) = n :=
  Nat.ofDigitChars_ten_toDigits

/-- A digit is neither of the signs of a number. -/
theorem ne_sign_of_isDigit {c : Char} (h : c.isDigit = true) : c ≠ '-' ∧ c ≠ '+' := by
  constructor
  · rintro rfl
    exact absurd h (by decide)
  · rintro rfl
    exact absurd h (by decide)

theorem readInt?_natDigits (n : Nat) : readInt? (natDigits n) = some (n : Int) := by
  have hdigits : ∀ c ∈ natDigits n, c.isDigit = true := fun c hc => isDigit_of_mem_natDigits hc
  have hvalue := digitsValue_natDigits n
  cases hds : natDigits n with
  | nil => exact absurd hds (natDigits_ne_nil n)
  | cons d ds =>
    rw [hds] at hdigits hvalue
    obtain ⟨hminus, hplus⟩ := ne_sign_of_isDigit (hdigits d List.mem_cons_self)
    have hall : (d :: ds).all Char.isDigit = true := List.all_eq_true.mpr hdigits
    unfold readInt?
    split
    · next heq => exact absurd (List.cons.inj heq).1 hminus
    · next heq => exact absurd (List.cons.inj heq).1 hplus
    · show (if (d :: ds).all Char.isDigit = true then some (digitsValue (d :: ds) : Int)
        else none) = some (n : Int)
      rw [if_pos hall, hvalue]

end TagTemplates.Text
