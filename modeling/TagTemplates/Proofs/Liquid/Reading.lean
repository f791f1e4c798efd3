import TagTemplates.Liquid.Expression
import TagTemplates.Proofs.Text.Basic
import TagTemplates.Tag.Path

/-!
# Reading back what is written for a path

Expansion writes a path as a variable.  The reader of the template language takes exactly that, and
stops where the text goes on with something else.  Only a root that begins with a literal word is
lost on it: the word is read in place of the root.

* `Step.Readable`: a step whose name begins like a variable and whose index fits in a word.
* `beginsWithWord`: whether a name begins with a literal word.
* `endsPath`, `StopsVariable`: where a path ends, and where a variable does not go on.
* `readLiteral_of_beginsWithWord`: what such a name is read as.
* `readIndicesWithin_stepsBelowSource`: the steps below a root are read back as indices.
* `readValue_expression`: a readable path is read back as the variable with its indices.
-/

namespace TagTemplates

/-- A character that a variable begins with; a hyphen is left out. -/
def beginsVariable (c : Char) : Bool := c.isAlpha || c == '_'

/-- A name that can stand in a variable. -/
def readableName (name : String) : Bool :=
  Text.beginsIn beginsVariable name.toList && name.toList.all Text.isNameChar

/-- A step that can stand in a variable. -/
structure Step.Readable (s : Step) : Prop where
  name : readableName s.name = true
  index : ∀ i, s.index = some i → i < Number.signedLimit

namespace Liquid

/-- The literal words of the language. -/
def literalWords : List String := (earlyWords ++ lateWords).map Prod.fst

/-- Whether a name begins with a literal word. -/
def beginsWithWord (name : String) : Bool := literalWords.any fun word => Text.startsWith name word

/-- A text in which neither a name nor a path goes on. -/
def endsPath (rest : List Char) : Bool :=
  rest.head?.all fun c => !Text.isNameChar c && c != '-' && c != '.' && c != '['

/-! ## Names -/

theorem startsName_of_beginsVariable {c : Char} (h : beginsVariable c = true) (rest : List Char) :
    startsName c rest = true := by
  rw [startsName, ← beginsVariable, h, Bool.true_or]

theorem continuesName_of_isNameChar {c : Char} (h : Text.isNameChar c = true) (rest : List Char) :
    continuesName c rest = true := by
  rw [Text.isNameChar, Char.isAlphanum] at h
  rw [continuesName, startsName]
  cases hc : c.isAlpha with
  | true => rw [Bool.true_or, Bool.true_or, Bool.true_or]
  | false =>
    rw [hc, Bool.false_or] at h
    cases hd : c.isDigit with
    | true => rw [Bool.or_true]
    | false =>
      rw [hd, Bool.false_or] at h
      rw [h, Bool.false_or, Bool.true_or, Bool.true_or]

theorem continuesName_eq_false {c : Char} (h : Text.isNameChar c = false) (hhyphen : c ≠ '-')
    (rest : List Char) : continuesName c rest = false := by
  rw [Text.isNameChar, Char.isAlphanum] at h
  obtain ⟨⟨halpha, hdigit⟩, hunder⟩ :
      (c.isAlpha = false ∧ c.isDigit = false) ∧ (c == '_') = false := by
    simpa [Bool.or_eq_false_iff] using h
  rw [continuesName, startsName, halpha, hdigit, hunder, beq_eq_false_iff_ne.mpr hhyphen]
  rfl

/-- A run of name characters is taken as a whole. -/
theorem nameTail_append : ∀ {run rest : List Char}, (∀ c ∈ run, Text.isNameChar c = true) →
    (∀ c ∈ rest.head?, Text.isNameChar c = false ∧ c ≠ '-') → nameTail (run ++ rest) = (run, rest)
  | [], [], _, _ => rfl
  | [], c :: rest, _, hrest => by
    obtain ⟨hname, hhyphen⟩ := hrest c rfl
    rw [List.nil_append, nameTail, continuesName_eq_false hname hhyphen]
    rfl
  | c :: run, rest, hrun, hrest => by
    rw [List.cons_append, nameTail, continuesName_of_isNameChar (hrun c List.mem_cons_self),
      nameTail_append (fun d hd => hrun d (List.mem_cons_of_mem c hd)) hrest]
    rfl

/-- A readable name is one letter or underscore and a run of name characters. -/
theorem exists_cons_of_readableName {name : String} (h : readableName name = true) :
    ∃ c run, name.toList = c :: run ∧ beginsVariable c = true ∧
      ∀ d ∈ c :: run, Text.isNameChar d = true := by
  obtain ⟨hbegins, hall⟩ := Bool.and_eq_true_iff.mp h
  cases hname : name.toList with
  | nil =>
    rw [hname] at hbegins
    exact absurd hbegins (by simp [Text.beginsIn])
  | cons c run =>
    rw [hname] at hbegins hall
    exact ⟨c, run, rfl, by simpa [Text.beginsIn] using hbegins, List.all_eq_true.mp hall⟩

theorem readName_append {name : String} {rest : List Char} (h : readableName name = true)
    (hrest : ∀ c ∈ rest.head?, Text.isNameChar c = false ∧ c ≠ '-') :
    readName (name.toList ++ rest) = some (name, rest) := by
  obtain ⟨c, run, hname, hbegins, hall⟩ := exists_cons_of_readableName h
  rw [hname, List.cons_append, readName, if_pos (startsName_of_beginsVariable hbegins _),
    nameTail_append (fun d hd => hall d (List.mem_cons_of_mem c hd)) hrest]
  show some (String.ofList (c :: run), rest) = some (name, rest)
  rw [← hname, String.ofList_toList]

/-! ## Literal words -/

theorem readWord_append (word : String) (rest : List Char) :
    readWord word (word.toList ++ rest) = some rest := by
  rw [readWord, if_pos (List.isPrefixOf_iff_prefix.mpr (List.prefix_append _ _)),
    ← String.length_toList, List.drop_left]

theorem readWord_eq_none {word : String} {cs : List Char} (h : ¬word.toList <+: cs) :
    readWord word cs = none :=
  if_neg fun hprefix => h (List.isPrefixOf_iff_prefix.mp hprefix)

/-- A word of name characters lies within the name that a text begins with. -/
theorem prefix_append_iff {rest : List Char}
    (hrest : ∀ c ∈ rest.head?, Text.isNameChar c = false) :
    ∀ {word run : List Char}, (∀ c ∈ word, Text.isNameChar c = true) →
      (word <+: run ++ rest ↔ word <+: run)
  | [], _, _ => iff_of_true List.nil_prefix List.nil_prefix
  | c :: word, [], hword => by
    refine iff_of_false (fun h => ?_) (by simp)
    rw [List.nil_append] at h
    cases rest with
    | nil => exact absurd h (by simp)
    | cons d rest =>
      obtain ⟨rfl, -⟩ := List.cons_prefix_cons.mp h
      have hname := hword c List.mem_cons_self
      rw [hrest c rfl] at hname
      exact absurd hname (by simp)
  | c :: word, d :: run, hword => by
    rw [List.cons_append, List.cons_prefix_cons, List.cons_prefix_cons,
      prefix_append_iff hrest fun e he => hword e (List.mem_cons_of_mem c he)]

theorem isNameChar_of_mem_literalWords :
    ∀ word ∈ literalWords, ∀ c ∈ word.toList, Text.isNameChar c = true := by
  have hall : (literalWords.all fun word => word.toList.all Text.isNameChar) = true := by decide
  intro word hword
  exact List.all_eq_true.mp (List.all_eq_true.mp hall word hword)

theorem readWords_eq_none {words : List (String × Value)} {cs : List Char}
    (h : ∀ w ∈ words, ¬w.1.toList <+: cs) : readWords words cs = none := by
  rw [readWords, List.findSome?_eq_none_iff]
  rintro ⟨word, value⟩ hw
  show (readWord word cs).map _ = none
  rw [readWord_eq_none (h (word, value) hw)]
  rfl

/-- A word that is found is one of the words, and the rest is what follows it. -/
theorem exists_of_readWords_eq_some {words : List (String × Value)} {cs rest : List Char}
    {value : Value} (h : readWords words cs = some (value, rest)) :
    ∃ word ∈ words.map Prod.fst, word.toList ++ rest = cs := by
  rw [readWords] at h
  obtain ⟨⟨word, v⟩, hmem, hfound⟩ := List.exists_of_findSome?_eq_some h
  obtain ⟨rest', hword, heq⟩ := Option.map_eq_some_iff.mp hfound
  obtain ⟨rfl, rfl⟩ := Prod.mk.inj heq
  refine ⟨word, List.mem_map.mpr ⟨_, hmem, rfl⟩, ?_⟩
  rw [readWord] at hword
  by_cases hprefix : word.toList.isPrefixOf cs = true
  · rw [if_pos hprefix] at hword
    obtain ⟨more, rfl⟩ := List.isPrefixOf_iff_prefix.mp hprefix
    rw [← String.length_toList, List.drop_left] at hword
    rw [Option.some_inj.mp hword]
  · rw [if_neg hprefix] at hword
    exact absurd hword (by simp)

theorem readWords_isSome {words : List (String × Value)} {cs : List Char} {w : String × Value}
    (hw : w ∈ words) (h : w.1.toList <+: cs) : (readWords words cs).isSome = true := by
  rw [readWords, List.findSome?_isSome_iff]
  obtain ⟨word, value⟩ := w
  obtain ⟨rest, rfl⟩ := h
  refine ⟨(word, value), hw, ?_⟩
  show ((readWord word (word.toList ++ rest)).map _).isSome = true
  rw [readWord_append]
  rfl

/-! ## What a variable does not begin like -/

theorem ne_of_beginsVariable {c : Char} (h : beginsVariable c = true) :
    c ≠ '"' ∧ c ≠ '\'' ∧ c ≠ '-' ∧ c ≠ '+' ∧ c.isDigit = false := by
  refine ⟨?_, ?_, ?_, ?_, ?_⟩
  · rintro rfl
    exact absurd h (by decide)
  · rintro rfl
    exact absurd h (by decide)
  · rintro rfl
    exact absurd h (by decide)
  · rintro rfl
    exact absurd h (by decide)
  · have hunder : c = '_' ↔ c.toNat = 95 := Char.toNat_inj.symm
    unfold beginsVariable Char.isAlpha Char.isUpper Char.isLower at h
    unfold Char.isDigit
    simp only [Bool.or_eq_true, Bool.and_eq_true, decide_eq_true_eq, beq_iff_eq, hunder,
      UInt32.le_iff_toNat_le, ge_iff_le] at h
    simp only [Bool.and_eq_false_iff, decide_eq_false_iff_not, UInt32.le_iff_toNat_le, ge_iff_le]
    have h' : (65 ≤ c.toNat ∧ c.toNat ≤ 90 ∨ 97 ≤ c.toNat ∧ c.toNat ≤ 122) ∨ c.toNat = 95 := h
    show ¬48 ≤ c.toNat ∨ ¬c.toNat ≤ 57
    omega

theorem readText_of_beginsVariable {c : Char} (h : beginsVariable c = true) (rest : List Char) :
    readText (c :: rest) = none := by
  obtain ⟨hdouble, hsingle, -, -, -⟩ := ne_of_beginsVariable h
  rw [readText, if_neg]
  simp [hdouble, hsingle]

theorem readNumber_of_beginsVariable {c : Char} (h : beginsVariable c = true) (rest : List Char) :
    readNumber (c :: rest) = none := by
  obtain ⟨-, -, hminus, hplus, hdigit⟩ := ne_of_beginsVariable h
  have hrun : (c :: rest).takeWhile Char.isDigit = [] := by
    rw [List.takeWhile_cons, if_neg (by simp [hdigit])]
  unfold readNumber
  split
  next sign unsigned heq =>
    split at heq
    · next hc => exact absurd (List.cons.inj hc).1 hminus
    · next hc => exact absurd (List.cons.inj hc).1 hplus
    · obtain ⟨rfl, rfl⟩ := Prod.mk.inj heq
      rw [hrun]
      rfl

/-- A text that begins like a variable is read as a literal by a literal word only. -/
theorem readLiteral_of_beginsVariable {c : Char} (h : beginsVariable c = true) (cs : List Char) :
    readLiteral (c :: cs) =
      (readWords earlyWords (c :: cs) <|> readWords lateWords (c :: cs)) := by
  rw [readLiteral, readText_of_beginsVariable h, readNumber_of_beginsVariable h]
  cases readWords earlyWords (c :: cs) with
  | none => rfl
  | some found => rfl

theorem beginsIn_of_mem_literalWords :
    ∀ word ∈ literalWords, Text.beginsIn Char.isAlpha word.toList = true := by
  decide

theorem mem_literalWords {w : String × Value} (h : w ∈ earlyWords ∨ w ∈ lateWords) :
    w.1 ∈ literalWords := by
  rw [literalWords, List.map_append, List.mem_append]
  exact h.imp (List.mem_map_of_mem) (List.mem_map_of_mem)

/-- A text that begins with no letter begins with no literal word. -/
theorem not_prefix_of_isAlpha_eq_false {c : Char} (h : c.isAlpha = false) (cs : List Char)
    {word : String} (hword : word ∈ literalWords) : ¬word.toList <+: c :: cs := by
  intro hprefix
  have hbegins := beginsIn_of_mem_literalWords word hword
  cases hchars : word.toList with
  | nil =>
    rw [hchars] at hbegins
    exact absurd hbegins (by simp [Text.beginsIn])
  | cons d ds =>
    rw [hchars] at hbegins hprefix
    obtain ⟨rfl, -⟩ := List.cons_prefix_cons.mp hprefix
    have halpha : d.isAlpha = true := by simpa [Text.beginsIn] using hbegins
    exact absurd (halpha.symm.trans h) (by simp)

/-- Without a letter at its front a text is read as a text in quotes or a number. -/
theorem readLiteral_of_isAlpha_eq_false {c : Char} (h : c.isAlpha = false) (cs : List Char) :
    readLiteral (c :: cs) = (readText (c :: cs) <|> readNumber (c :: cs)) := by
  have hearly : readWords earlyWords (c :: cs) = none :=
    readWords_eq_none fun w hw =>
      not_prefix_of_isAlpha_eq_false h cs (mem_literalWords (Or.inl hw))
  have hlate : readWords lateWords (c :: cs) = none :=
    readWords_eq_none fun w hw =>
      not_prefix_of_isAlpha_eq_false h cs (mem_literalWords (Or.inr hw))
  rw [readLiteral, hearly, hlate]
  cases readText (c :: cs) with
  | none =>
    cases readNumber (c :: cs) with
    | none => rfl
    | some found => rfl
  | some found => rfl

/-- A literal word that a text begins with is one that the name at its front begins with. -/
theorem startsWith_of_prefix {name word : String} {rest : List Char} (hword : word ∈ literalWords)
    (hrest : ∀ c ∈ rest.head?, Text.isNameChar c = false)
    (h : word.toList <+: name.toList ++ rest) : beginsWithWord name = true := by
  have hprefix := (prefix_append_iff hrest (isNameChar_of_mem_literalWords word hword)).mp h
  exact List.any_eq_true.mpr ⟨word, hword, List.isPrefixOf_iff_prefix.mpr hprefix⟩

/-- A name that begins with no literal word is no literal. -/
theorem readLiteral_append_eq_none {name : String} {rest : List Char}
    (h : readableName name = true) (hwords : beginsWithWord name = false)
    (hrest : ∀ c ∈ rest.head?, Text.isNameChar c = false) :
    readLiteral (name.toList ++ rest) = none := by
  have hnone : ∀ w : String × Value, w ∈ earlyWords ∨ w ∈ lateWords →
      ¬w.1.toList <+: name.toList ++ rest := by
    intro w hw hprefix
    have hbegins := startsWith_of_prefix (mem_literalWords hw) hrest hprefix
    exact absurd (hwords.symm.trans hbegins) (by simp)
  have hearly := readWords_eq_none fun w hw => hnone w (Or.inl hw)
  have hlate := readWords_eq_none fun w hw => hnone w (Or.inr hw)
  obtain ⟨c, run, hname, hbegins, -⟩ := exists_cons_of_readableName h
  rw [hname, List.cons_append] at hearly hlate ⊢
  rw [readLiteral_of_beginsVariable hbegins, hearly, hlate]
  rfl

/-- A text that begins like a variable and with a literal word is read as a literal. -/
theorem readLiteral_isSome {w : String × Value} (hw : w ∈ earlyWords ∨ w ∈ lateWords) {c : Char}
    (h : beginsVariable c = true) {cs : List Char} (hfront : w.1.toList <+: c :: cs) :
    (readLiteral (c :: cs)).isSome = true := by
  rw [readLiteral_of_beginsVariable h]
  cases hearly : readWords earlyWords (c :: cs) with
  | some found => rfl
  | none =>
    rcases hw with hw | hw
    · have hsome := readWords_isSome hw hfront
      rw [hearly] at hsome
      exact absurd hsome (by simp)
    · exact readWords_isSome hw hfront

/-- A text that begins like a variable is read as a literal no further than a literal word. -/
theorem exists_of_readLiteral_eq_some {c : Char} (h : beginsVariable c = true)
    {cs after : List Char} {value : Value} (hfound : readLiteral (c :: cs) = some (value, after)) :
    ∃ word ∈ literalWords, word.toList ++ after = c :: cs := by
  rw [readLiteral_of_beginsVariable h] at hfound
  rw [literalWords, List.map_append]
  cases hearly : readWords earlyWords (c :: cs) with
  | some found =>
    rw [hearly] at hfound
    obtain ⟨word, hmem, happend⟩ := exists_of_readWords_eq_some (hearly.trans hfound)
    exact ⟨word, List.mem_append_left _ hmem, happend⟩
  | none =>
    rw [hearly] at hfound
    obtain ⟨word, hmem, happend⟩ := exists_of_readWords_eq_some hfound
    exact ⟨word, List.mem_append_right _ hmem, happend⟩

/-- **A name that begins with a literal word is read as that literal.**  Unless the name is the
word, a name character is left behind. -/
theorem readLiteral_of_beginsWithWord {name : String} {rest : List Char}
    (h : readableName name = true) (hwords : beginsWithWord name = true)
    (hname : name ∉ literalWords) (hrest : ∀ c ∈ rest.head?, Text.isNameChar c = false) :
    ∃ value d more, readLiteral (name.toList ++ rest) = some (value, d :: more) ∧
      Text.isNameChar d = true := by
  obtain ⟨word, hword, hprefix⟩ := List.any_eq_true.mp hwords
  obtain ⟨w, hw, rfl⟩ := List.mem_map.mp hword
  have hfront : w.1.toList <+: name.toList ++ rest :=
    (List.isPrefixOf_iff_prefix.mp hprefix).trans (List.prefix_append _ _)
  obtain ⟨c, run, hcons, hbegins, hall⟩ := exists_cons_of_readableName h
  rw [hcons, List.cons_append] at hfront ⊢
  obtain ⟨⟨value, after⟩, hfound⟩ :=
    Option.isSome_iff_exists.mp (readLiteral_isSome (List.mem_append.mp hw) hbegins hfront)
  obtain ⟨found, hmem, happend⟩ := exists_of_readLiteral_eq_some hbegins hfound
  rw [← List.cons_append, ← hcons] at happend
  -- the word that was read lies within the name, and what is left of the name was left behind
  obtain ⟨left, hleft⟩ :=
    (prefix_append_iff hrest (isNameChar_of_mem_literalWords found hmem)).mp ⟨after, happend⟩
  rw [← hleft, List.append_assoc, List.append_cancel_left_eq] at happend
  cases left with
  | nil =>
    rw [List.append_nil, String.toList_inj] at hleft
    exact absurd (hleft ▸ hmem) hname
  | cons d left =>
    refine ⟨value, d, left ++ rest, ?_, hall d ?_⟩
    · rw [hfound, happend]
      rfl
    · rw [← hcons, ← hleft]
      exact List.mem_append_right _ List.mem_cons_self

/-! ## Indices -/

/-- What is written for an index. -/
def bracketSource : Option Nat → List Char
  | none => []
  | some i => '[' :: Text.natDigits i ++ [']']

/-- What an index is read as. -/
def bracketIndices : Option Nat → List Expression
  | none => []
  | some i => [.literal (.scalar (.whole i))]

/-- What a step below the root is read as. -/
def stepIndices (s : Step) : List Expression := .literal (.ofText s.name) :: bracketIndices s.index

/-- What is written for the steps below a root. -/
def stepsBelowSource (steps : List Step) : List Char := steps.flatMap fun s => '.' :: s.expression

theorem expression_eq (s : Step) : s.expression = s.name.toList ++ bracketSource s.index := by
  rw [Step.expression]
  cases s.index with
  | none => rfl
  | some i => rfl

theorem readNumber_natDigits {i : Nat} (h : i < Number.signedLimit) (rest : List Char) :
    readNumber (Text.natDigits i ++ ']' :: rest) = some (.scalar (.whole i), ']' :: rest) := by
  have hdigits : ∀ c ∈ Text.natDigits i, c.isDigit = true :=
    fun c hc => Text.isDigit_of_mem_natDigits hc
  have hstop : (']' :: rest).head?.any Char.isDigit = false := by
    show (']').isDigit = false
    decide
  have hwrap : Number.wrap i = i := by
    unfold Number.wrap Number.wordCount
    unfold Number.signedLimit at h
    rw [Int.bmod_eq_of_le] <;> omega
  have hrun := Text.takeWhile_append_of_head? hdigits hstop
  have hafter := Text.dropWhile_append_of_head? hdigits hstop
  have hint := Text.readInt?_natDigits i
  cases hds : Text.natDigits i with
  | nil => exact absurd hds (Text.natDigits_ne_nil i)
  | cons d ds =>
    rw [hds] at hrun hafter hint hdigits
    obtain ⟨hminus, hplus⟩ := Text.ne_sign_of_isDigit (hdigits d List.mem_cons_self)
    unfold readNumber
    split
    next sign unsigned heq =>
      rw [List.cons_append] at heq
      split at heq
      · next hc => exact absurd (List.cons.inj hc).1 hminus
      · next hc => exact absurd (List.cons.inj hc).1 hplus
      · obtain ⟨rfl, rfl⟩ := Prod.mk.inj heq
        rw [← List.cons_append, hrun, hafter]
        show (Text.readInt? (d :: ds)).map
          (fun i => (Value.scalar (.whole (Number.wrap i)), ']' :: rest)) = _
        rw [hint, Option.map_some, hwrap]

theorem isAlpha_eq_false_of_isDigit {c : Char} (h : c.isDigit = true) : c.isAlpha = false := by
  refine Bool.eq_false_iff.mpr fun halpha => ?_
  have hbegins : beginsVariable c = true := by rw [beginsVariable, halpha, Bool.true_or]
  obtain ⟨-, -, -, -, hdigit⟩ := ne_of_beginsVariable hbegins
  exact absurd (h.symm.trans hdigit) (by simp)

theorem readLiteral_natDigits {i : Nat} (h : i < Number.signedLimit) (rest : List Char) :
    readLiteral (Text.natDigits i ++ ']' :: rest) = some (.scalar (.whole i), ']' :: rest) := by
  have hnumber := readNumber_natDigits h rest
  cases hds : Text.natDigits i with
  | nil => exact absurd hds (Text.natDigits_ne_nil i)
  | cons d ds =>
    have hd : d.isDigit = true := by
      refine Text.isDigit_of_mem_natDigits (n := i) ?_
      rw [hds]
      exact List.mem_cons_self
    have htext : readText (d :: (ds ++ ']' :: rest)) = none := by
      rw [readText, if_neg]
      rintro hquote
      rcases Bool.or_eq_true_iff.mp hquote with hq | hq
      · rw [beq_iff_eq.mp hq] at hd
        exact absurd hd (by decide)
      · rw [beq_iff_eq.mp hq] at hd
        exact absurd hd (by decide)
    rw [hds, List.cons_append] at hnumber
    rw [List.cons_append, readLiteral_of_isAlpha_eq_false (isAlpha_eq_false_of_isDigit hd), htext,
      hnumber]
    rfl

theorem readValueWithin_natDigits {i : Nat} (h : i < Number.signedLimit) (fuel : Nat)
    (rest : List Char) : readValueWithin (fuel + 1) (Text.natDigits i ++ ']' :: rest) =
      some (.literal (.scalar (.whole i)), ']' :: rest) := by
  rw [readValueWithin, readLiteral_natDigits h]

/-! ## Variables -/

/-- A text in which a variable in front of it does not go on: no part of a name comes next, and no
index. -/
structure StopsVariable (rest : List Char) : Prop where
  head : ∀ c ∈ rest.head?, Text.isNameChar c = false ∧ c ≠ '-'
  indices : ∀ fuel, readIndicesWithin fuel rest = ([], rest)

/-- Where a path ends, a variable does not go on. -/
theorem stopsVariable_of_endsPath {rest : List Char} (h : endsPath rest = true) :
    StopsVariable rest := by
  cases rest with
  | nil =>
    refine ⟨fun c hc => absurd hc (by simp), fun fuel => ?_⟩
    cases fuel with
    | zero => rw [readIndicesWithin]
    | succ fuel => simp [readIndicesWithin]
  | cons c rest =>
    have hends : (!Text.isNameChar c && c != '-' && c != '.' && c != '[') = true := h
    simp only [Bool.and_eq_true, bne_iff_ne, Bool.not_eq_true'] at hends
    obtain ⟨⟨⟨hname, hhyphen⟩, hdot⟩, hbracket⟩ := hends
    refine ⟨fun d hd => Option.some_inj.mp hd ▸ ⟨hname, hhyphen⟩, fun fuel => ?_⟩
    cases fuel with
    | zero => rw [readIndicesWithin]
    | succ fuel =>
      rw [readIndicesWithin]
      · intro afterDot heq
        exact hdot (List.cons.inj heq).1
      · intro afterBracket heq
        exact hbracket (List.cons.inj heq).1

/-- What stands in front of an index or of further steps is no part of a name. -/
theorem head?_bracketSource (index : Option Nat) (steps : List Step) {rest : List Char}
    (hrest : StopsVariable rest) :
    ∀ c ∈ (bracketSource index ++ (stepsBelowSource steps ++ rest)).head?,
      Text.isNameChar c = false ∧ c ≠ '-' := by
  intro c hc
  cases index with
  | some i =>
    obtain rfl : '[' = c := Option.some_inj.mp hc
    decide
  | none =>
    cases steps with
    | cons s steps =>
      obtain rfl : '.' = c := Option.some_inj.mp hc
      decide
    | nil => exact hrest.head c hc

/-- A name behind a dot is the next index. -/
theorem readIndicesWithin_dot {name : String} (h : readableName name = true) {rest : List Char}
    (hrest : ∀ c ∈ rest.head?, Text.isNameChar c = false ∧ c ≠ '-') (fuel : Nat) :
    readIndicesWithin (fuel + 1) ('.' :: (name.toList ++ rest)) =
      (.literal (.ofText name) :: (readIndicesWithin fuel rest).1,
        (readIndicesWithin fuel rest).2) := by
  rw [readIndicesWithin, readName_append h hrest]

/-- A number in brackets is the next index. -/
theorem readIndicesWithin_bracket {i : Nat} (h : i < Number.signedLimit) (fuel : Nat)
    (rest : List Char) :
    readIndicesWithin (fuel + 2) ('[' :: (Text.natDigits i ++ ']' :: rest)) =
      (.literal (.scalar (.whole i)) :: (readIndicesWithin (fuel + 1) rest).1,
        (readIndicesWithin (fuel + 1) rest).2) := by
  rw [readIndicesWithin, readValueWithin_natDigits h]
  rfl

/-- An index in front takes no more depth than it has characters. -/
theorem readIndicesWithin_bracketSource {rest : List Char} {depth : Nat}
    {found : List Expression × List Char}
    (hfound : ∀ fuel, depth < fuel → readIndicesWithin fuel rest = found) :
    ∀ index : Option Nat, (∀ i, index = some i → i < Number.signedLimit) →
      ∀ fuel, (bracketSource index).length + depth < fuel →
        readIndicesWithin fuel (bracketSource index ++ rest) =
          (bracketIndices index ++ found.1, found.2)
  | none, _, fuel, hfuel => hfound fuel (Nat.zero_add depth ▸ hfuel)
  | some i, hindex, fuel, hfuel => by
    have hlength : depth + 2 ≤ fuel := by
      rw [bracketSource, List.length_append, List.length_cons, List.length_singleton] at hfuel
      omega
    obtain ⟨fuel, rfl⟩ : ∃ n, fuel = n + 2 := ⟨fuel - 2, by omega⟩
    show readIndicesWithin (fuel + 2) ('[' :: ((Text.natDigits i ++ [']']) ++ rest)) = _
    rw [List.append_assoc, List.singleton_append, readIndicesWithin_bracket (hindex i rfl),
      hfound (fuel + 1) (by omega)]
    rfl

/-- **The steps below a root are read back.**  They take no more depth than they have
characters. -/
theorem readIndicesWithin_stepsBelowSource {rest : List Char} (hrest : StopsVariable rest) :
    ∀ {steps : List Step}, (∀ s ∈ steps, s.Readable) →
      ∀ fuel, (stepsBelowSource steps).length < fuel →
      readIndicesWithin fuel (stepsBelowSource steps ++ rest) = (steps.flatMap stepIndices, rest)
  | [], _, fuel, _ => hrest.indices fuel
  | s :: steps, hsteps, fuel, hfuel => by
    have hs := hsteps s List.mem_cons_self
    have hbelow := readIndicesWithin_stepsBelowSource hrest
      fun t ht => hsteps t (List.mem_cons_of_mem s ht)
    have hsource : stepsBelowSource (s :: steps) =
        '.' :: (s.name.toList ++ (bracketSource s.index ++ stepsBelowSource steps)) := by
      rw [stepsBelowSource, List.flatMap_cons, expression_eq, stepsBelowSource, List.cons_append,
        List.append_assoc]
    rw [hsource, List.length_cons, List.length_append, List.length_append] at hfuel
    obtain ⟨fuel, rfl⟩ : ∃ n, fuel = n + 1 := ⟨fuel - 1, by omega⟩
    rw [hsource, List.cons_append, List.append_assoc, List.append_assoc,
      readIndicesWithin_dot hs.name (head?_bracketSource s.index steps hrest),
      readIndicesWithin_bracketSource hbelow s.index hs.index fuel (by omega)]
    rfl

theorem joinWith_cons (sep a : List Char) : ∀ rest : List (List Char),
    Text.joinWith sep (a :: rest) = a ++ rest.flatMap fun b => sep ++ b
  | [] => by rw [Text.joinWith, List.flatMap_nil, List.append_nil]
  | b :: rest => by
    rw [Text.joinWith, joinWith_cons sep b rest, List.flatMap_cons, List.append_assoc,
      List.append_assoc]

/-- The variable of a path: its root, and behind it everything that is an index. -/
theorem expression_path_eq (p : Path) : p.expression =
    p.root.name.toList ++ (bracketSource p.root.index ++ stepsBelowSource p.rest) := by
  rw [Path.expression, Path.steps, List.map_cons, joinWith_cons, expression_eq, List.append_assoc,
    List.flatMap_map]
  rfl

/-- **A readable path is read back.**  Its root must not begin with a literal word. -/
theorem readValue_expression {p : Path} (h : ∀ s ∈ p.steps, s.Readable)
    (hwords : beginsWithWord p.root.name = false) {rest : List Char}
    (hrest : StopsVariable rest) :
    readValue (p.expression ++ rest) =
      some (.lookup p.root.name (bracketIndices p.root.index ++ p.rest.flatMap stepIndices),
        rest) := by
  have hroot := h p.root List.mem_cons_self
  have hbelow : ∀ s ∈ p.rest, s.Readable := fun s hs => h s (List.mem_cons_of_mem p.root hs)
  have hhead := head?_bracketSource p.root.index p.rest hrest
  have hsource : p.expression ++ rest = p.root.name.toList ++
      (bracketSource p.root.index ++ (stepsBelowSource p.rest ++ rest)) := by
    rw [expression_path_eq, List.append_assoc, List.append_assoc]
  have hfuel : (bracketSource p.root.index).length + (stepsBelowSource p.rest).length <
      (p.root.name.toList ++
        (bracketSource p.root.index ++ (stepsBelowSource p.rest ++ rest))).length := by
    obtain ⟨c, run, hname, -, -⟩ := exists_cons_of_readableName hroot.name
    rw [hname]
    simp only [List.length_append, List.length_cons]
    omega
  rw [hsource, readValue, readValueWithin,
    readLiteral_append_eq_none hroot.name hwords fun c hc => (hhead c hc).1,
    readName_append hroot.name hhead]
  simp only [readIndicesWithin_bracketSource
    (readIndicesWithin_stepsBelowSource hrest hbelow) p.root.index hroot.index _ hfuel]

end Liquid

end TagTemplates
