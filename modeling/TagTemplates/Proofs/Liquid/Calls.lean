import TagTemplates.Proofs.Liquid.Reading
import TagTemplates.Template.Expansion

/-!
# Reading back what is written for a tag

Behind the variable of a tag, or the text of its fallback, expansion writes the fallback filter with
a text in quotes.  There are no escapes inside quotes, so any text without these quotes is read
back.

* `readValue_quoted`: a text in quotes that do not occur in it is read back as the text.
* `readFilters_fallback`: the fallback filter is read back, up to where the marker closes.
* `readCalls_fallback`: an expression is read back together with it.
* `readCalls_of_beginsWithWord`: what is left behind when a root begins with a literal word.
-/

namespace TagTemplates

namespace Liquid

/-! ## Texts in quotes -/

/-- One of the two quotes. -/
def isQuote (q : Char) : Bool := q == '"' || q == '\''

theorem eq_of_isQuote {q : Char} (h : isQuote q = true) : q = '"' ∨ q = '\'' := by
  rcases Bool.or_eq_true_iff.mp h with hq | hq
  · exact Or.inl (beq_iff_eq.mp hq)
  · exact Or.inr (beq_iff_eq.mp hq)

/-- **A text in quotes is read back**, whatever else it holds. -/
theorem readLiteral_quoted {q : Char} (hq : isQuote q = true) {text : List Char} (h : q ∉ text)
    (rest : List Char) :
    readLiteral (q :: (text ++ q :: rest)) = some (.ofText (String.ofList text), rest) := by
  have halpha : q.isAlpha = false := by
    rcases eq_of_isQuote hq with rfl | rfl
    · decide
    · decide
  have htext : readText (q :: (text ++ q :: rest)) = some (.ofText (String.ofList text), rest) := by
    have hquote : (q == '"' || q == '\x27') = true := hq
    rw [readText, if_pos hquote, Text.cutAt?_append h]
  rw [readLiteral_of_isAlpha_eq_false halpha, htext]
  rfl

theorem readValue_quoted {q : Char} (hq : isQuote q = true) {text : List Char} (h : q ∉ text)
    (rest : List Char) :
    readValue (q :: (text ++ q :: rest)) =
      some (.literal (.ofText (String.ofList text)), rest) := by
  rw [readValue, readValueWithin, readLiteral_quoted hq h]

theorem readName_of_isQuote {q : Char} (hq : isQuote q = true) (rest : List Char) :
    readName (q :: rest) = none := by
  have hstarts : startsName q rest = false := by
    rcases eq_of_isQuote hq with rfl | rfl
    · rfl
    · rfl
  rw [readName, hstarts]
  rfl

theorem readArgument_quoted {q : Char} (hq : isQuote q = true) {text : List Char} (h : q ∉ text)
    (rest : List Char) :
    readArgument (q :: (text ++ q :: rest)) =
      some (⟨none, .literal (.ofText (String.ofList text))⟩, rest) := by
  rw [readArgument, readName_of_isQuote hq, readValue_quoted hq h]
  rfl

/-! ## The fallback filter -/

/-- A closing marker comes next, perhaps behind white space. -/
def Closes (rest : List Char) : Prop := ∃ more, skipGap rest = '}' :: '}' :: more

/-- No word comes next where a marker closes. -/
theorem readWord_of_closes {rest : List Char} (h : Closes rest) {word : String} {c : Char}
    (hc : word.toList.head? = some c) (hne : c ≠ '}') : readWord word (skipGap rest) = none := by
  obtain ⟨more, hmore⟩ := h
  refine readWord_eq_none fun hprefix => ?_
  rw [hmore] at hprefix
  cases hchars : word.toList with
  | nil =>
    rw [hchars] at hc
    exact absurd hc (by simp)
  | cons d ds =>
    rw [hchars] at hc hprefix
    obtain ⟨rfl, -⟩ := List.cons_prefix_cons.mp hprefix
    exact hne (Option.some_inj.mp hc).symm

theorem readMoreArguments_of_closes {rest : List Char} (h : Closes rest) (fuel : Nat) :
    readMoreArguments fuel rest = ([], rest) := by
  cases fuel with
  | zero => rw [readMoreArguments]
  | succ fuel =>
    rw [readMoreArguments, readWord_of_closes h (c := ',') rfl (by decide)]
    rfl

theorem readFilters_of_closes {rest : List Char} (h : Closes rest) (fuel : Nat) :
    readFilters fuel rest = ([], rest) := by
  cases fuel with
  | zero => rw [readFilters]
  | succ fuel =>
    rw [readFilters, readWord_of_closes h (c := '|') rfl (by decide)]
    rfl

/-- The call of the fallback filter with a text as its argument. -/
def fallbackCall (text : List Char) : Call :=
  ⟨fallbackFilter, [⟨none, .literal (.ofText (String.ofList text))⟩]⟩

/-- What is written for this call behind an expression. -/
def fallbackSource (literal : List Char) : List Char :=
  " | ".toList ++ fallbackFilter.toList ++ ": ".toList ++ literal

theorem readCall_fallback {q : Char} (hq : isQuote q = true) {text : List Char} (h : q ∉ text)
    {rest : List Char} (hrest : Closes rest) :
    readCall (fallbackFilter.toList ++ (':' :: ' ' :: q :: (text ++ q :: rest))) =
      some (fallbackCall text, rest) := by
  have hname : readName (fallbackFilter.toList ++ (':' :: ' ' :: q :: (text ++ q :: rest))) =
      some (fallbackFilter, ':' :: ' ' :: q :: (text ++ q :: rest)) := by
    refine readName_append (by decide) fun c hc => ?_
    obtain rfl : ':' = c := Option.some_inj.mp hc
    decide
  have hcolon : readWord ":" (skipGap (':' :: ' ' :: q :: (text ++ q :: rest))) =
      some (' ' :: q :: (text ++ q :: rest)) := readWord_append ":" _
  have hgap : skipGap (' ' :: q :: (text ++ q :: rest)) = q :: (text ++ q :: rest) := by
    rcases eq_of_isQuote hq with rfl | rfl
    · rfl
    · rfl
  rw [readCall, hname, Option.bind_eq_bind, Option.bind_some]
  simp only [hcolon, Option.bind_some, hgap, readArgument_quoted hq h,
    readMoreArguments_of_closes hrest]
  rfl

theorem fallbackSource_append (q : Char) (text rest : List Char) :
    fallbackSource (q :: text ++ [q]) ++ rest = ' ' :: '|' :: ' ' ::
      (fallbackFilter.toList ++ (':' :: ' ' :: q :: (text ++ q :: rest))) := by
  have hbar : " | ".toList = [' ', '|', ' '] := rfl
  have hcolon : ": ".toList = [':', ' '] := rfl
  rw [fallbackSource, hbar, hcolon]
  simp only [List.cons_append, List.nil_append, List.append_assoc]

/-- **The fallback filter is read back** behind any expression. -/
theorem readFilters_fallback {q : Char} (hq : isQuote q = true) {text : List Char} (h : q ∉ text)
    {rest : List Char} (hrest : Closes rest) (fuel : Nat) :
    readFilters (fuel + 1) (fallbackSource (q :: text ++ [q]) ++ rest) =
      ([fallbackCall text], rest) := by
  rw [fallbackSource_append]
  have hbar : readWord "|" (skipGap (' ' :: '|' :: ' ' ::
      (fallbackFilter.toList ++ (':' :: ' ' :: q :: (text ++ q :: rest))))) =
        some (' ' :: (fallbackFilter.toList ++ (':' :: ' ' :: q :: (text ++ q :: rest)))) :=
    readWord_append "|" _
  have hgap : skipGap (' ' :: (fallbackFilter.toList ++ (':' :: ' ' :: q :: (text ++ q :: rest)))) =
      fallbackFilter.toList ++ (':' :: ' ' :: q :: (text ++ q :: rest)) := rfl
  rw [readFilters, hbar, Option.bind_some, hgap, readCall_fallback hq h hrest]
  simp only [readFilters_of_closes hrest]

/-- An expression and the filters behind it are read one after the other. -/
theorem readCalls_eq_some {cs rest after : List Char} {entry : Expression} {filters : List Call}
    (hvalue : readValue cs = some (entry, rest))
    (hfilters : readFilters rest.length rest = (filters, after)) :
    readCalls cs = some (⟨entry, filters⟩, after) := by
  rw [readCalls, hvalue, Option.bind_eq_bind, Option.bind_some]
  simp only [hfilters]
  rfl

/-- An expression is read back together with the fallback filter behind it. -/
theorem readCalls_fallback {q : Char} (hq : isQuote q = true) {text : List Char} (h : q ∉ text)
    {source rest : List Char} (hrest : Closes rest) {entry : Expression}
    (hentry : readValue (source ++ (fallbackSource (q :: text ++ [q]) ++ rest)) =
      some (entry, fallbackSource (q :: text ++ [q]) ++ rest)) :
    readCalls (source ++ (fallbackSource (q :: text ++ [q]) ++ rest)) =
      some (⟨entry, [fallbackCall text]⟩, rest) := by
  obtain ⟨fuel, hfuel⟩ : ∃ fuel, (fallbackSource (q :: text ++ [q]) ++ rest).length = fuel + 1 := by
    rw [fallbackSource_append]
    exact ⟨_, List.length_cons⟩
  refine readCalls_eq_some hentry ?_
  rw [hfuel, readFilters_fallback hq h hrest]

theorem ne_of_isNameChar {c d : Char} (hc : Text.isNameChar c = true)
    (hd : Text.isNameChar d = false) : c ≠ d := by
  rintro rfl
  exact absurd (hc.symm.trans hd) (by simp)

theorem skipGap_of_isNameChar {c : Char} (h : Text.isNameChar c = true) (rest : List Char) :
    skipGap (c :: rest) = c :: rest := by
  have hgap : isGap c = false := by
    rw [isGap, beq_eq_false_iff_ne.mpr (ne_of_isNameChar h (d := ' ') rfl),
      beq_eq_false_iff_ne.mpr (ne_of_isNameChar h (d := '\n') rfl),
      beq_eq_false_iff_ne.mpr (ne_of_isNameChar h (d := '\r') rfl)]
    rfl
  rw [skipGap, List.dropWhile_cons, if_neg (by simp [hgap])]

/-- A literal word in place of a root leaves a name character behind, where no marker closes. -/
theorem readCalls_of_beginsWithWord {name : String} {rest : List Char}
    (h : readableName name = true) (hwords : beginsWithWord name = true)
    (hname : name ∉ literalWords) (hrest : ∀ c ∈ rest.head?, Text.isNameChar c = false) :
    ∃ calls d more, readCalls (name.toList ++ rest) = some (calls, d :: more) ∧
      Text.isNameChar d = true := by
  obtain ⟨value, d, more, hliteral, hd⟩ := readLiteral_of_beginsWithWord h hwords hname hrest
  have hbar : readWord "|" (skipGap (d :: more)) = none := by
    rw [skipGap_of_isNameChar hd]
    refine readWord_eq_none fun hprefix => ?_
    exact ne_of_isNameChar hd rfl (List.cons_prefix_cons.mp hprefix).1.symm
  have hvalue : readValue (name.toList ++ rest) = some (.literal value, d :: more) := by
    rw [readValue, readValueWithin, hliteral]
  have hfilters : readFilters (d :: more).length (d :: more) = ([], d :: more) := by
    rw [List.length_cons, readFilters, hbar]
    rfl
  exact ⟨⟨.literal value, []⟩, d, more, readCalls_eq_some hvalue hfilters, hd⟩

end Liquid

end TagTemplates
