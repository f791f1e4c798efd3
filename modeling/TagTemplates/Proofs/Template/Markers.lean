import TagTemplates.Proofs.Liquid.Calls
import TagTemplates.Template.Output

/-!
# Markers and string literals

The engine's markers are pairs of characters, and a pair inside a string literal closes nothing.
Which literal is open at a place of a text is told by the text before it alone.  The two searches
for a closing pair are described by what stands in front of the pair that they find.

* `quoteAfter`, `openQuote`: the literal that is open behind a character and behind a text.
* `Unpaired`, `ClosedBy`: a text without a pair outside literals, and one that ends at its first.
* `cutUnquoted_eq_none_iff`, `cutUnquoted_eq_some_iff`: the search that passes over literals.
* `cutPair_eq_none_iff`, `cutPair_eq_some_iff`: the search that does not.
* `lastFilter_eq_some_iff`: what stands behind the last bar.
-/

namespace TagTemplates

open Liquid

variable {a b c : Char} {quote : Option Char} {cs : List Char}

/-! ## The literal that is open -/

/-- The quote of the literal that is open behind a character. -/
def quoteAfter (quote : Option Char) (c : Char) : Option Char :=
  match quote with
  | some q => if c = q then none else some q
  | none => if isQuote c then some c else none

/-- The quote of the literal that is open behind a text. -/
def openQuote (cs : List Char) : Option Char := cs.foldl quoteAfter none

theorem isQuote_iff : isQuote c = true ↔ c = '\'' ∨ c = '"' := by
  rw [isQuote, Bool.or_eq_true, beq_iff_eq, beq_iff_eq, or_comm]

/-- Behind a character that is no quote the same literal is open. -/
theorem quoteAfter_of_isQuote_eq_false (hquote : ∀ q ∈ quote, isQuote q = true)
    (h : isQuote c = false) : quoteAfter quote c = quote := by
  cases quote with
  | none => rw [quoteAfter, if_neg (by simp [h])]
  | some q =>
    have hne : c ≠ q := by
      rintro rfl
      exact absurd (h.symm.trans (hquote c rfl)) (by simp)
    rw [quoteAfter, if_neg hne]

theorem foldl_quoteAfter_of_forall (hquote : ∀ q ∈ quote, isQuote q = true) :
    ∀ {cs : List Char}, (∀ c ∈ cs, isQuote c = false) → cs.foldl quoteAfter quote = quote
  | [], _ => rfl
  | c :: cs, h => by
    rw [List.foldl_cons, quoteAfter_of_isQuote_eq_false hquote (h c List.mem_cons_self)]
    exact foldl_quoteAfter_of_forall hquote fun d hd => h d (List.mem_cons_of_mem c hd)

/-- A literal that is open was opened by a quote. -/
theorem isQuote_of_quoteAfter (hquote : ∀ q ∈ quote, isQuote q = true) :
    ∀ q ∈ quoteAfter quote c, isQuote q = true := by
  intro q hq
  cases quote with
  | none =>
    by_cases hc : isQuote c = true
    · rw [quoteAfter, if_pos hc] at hq
      rwa [← Option.some_inj.mp hq]
    · rw [quoteAfter, if_neg hc] at hq
      exact absurd hq (by simp)
  | some q' =>
    by_cases hc : c = q'
    · rw [quoteAfter, if_pos hc] at hq
      exact absurd hq (by simp)
    · rw [quoteAfter, if_neg hc] at hq
      exact hquote q hq

theorem isQuote_of_mem_foldl : ∀ (cs : List Char) {quote : Option Char},
    (∀ q ∈ quote, isQuote q = true) → ∀ q ∈ cs.foldl quoteAfter quote, isQuote q = true
  | [], _, hquote => hquote
  | _ :: cs, _, hquote => isQuote_of_mem_foldl cs (isQuote_of_quoteAfter hquote)

/-- **Characters that are no quotes open no literal and close none.** -/
theorem openQuote_append (front : List Char) (h : ∀ c ∈ cs, isQuote c = false) :
    openQuote (front ++ cs) = openQuote front := by
  rw [openQuote, List.foldl_append]
  exact foldl_quoteAfter_of_forall (isQuote_of_mem_foldl front (by simp)) h

/-! ## Texts without a pair -/

/-- No pair `a b` stands outside literals, in a text at whose beginning a literal may be open. -/
def Unpaired (a b : Char) (quote : Option Char) (cs : List Char) : Prop :=
  ∀ before after, cs = before ++ a :: b :: after → before.foldl quoteAfter quote ≠ none

/-- With the pair `a b` behind it, the text ends at the first such pair outside literals. -/
structure ClosedBy (a b : Char) (quote : Option Char) (body : List Char) : Prop where
  /-- No literal is open at the pair. -/
  closes : body.foldl quoteAfter quote = none
  /-- There is no pair before it, not even one that shares a character with it. -/
  first : Unpaired a b quote (body ++ [a])

theorem unpaired_nil : Unpaired a b quote [] := by
  intro before after h
  exact absurd h (by simp)

theorem unpaired_cons : Unpaired a b quote (c :: cs) ↔
    ¬(quote = none ∧ c = a ∧ cs.head? = some b) ∧ Unpaired a b (quoteAfter quote c) cs := by
  constructor
  · refine fun h => ⟨?_, fun before after hcs => ?_⟩
    · rintro ⟨rfl, rfl, hb⟩
      obtain ⟨rest, rfl⟩ := List.head?_eq_some_iff.mp hb
      exact h [] rest rfl rfl
    · exact h (c :: before) after (by rw [hcs]; rfl)
  · rintro ⟨hfirst, hrest⟩ before after hcs
    cases before with
    | nil =>
      obtain ⟨rfl, rfl⟩ := List.cons.inj hcs
      exact fun hquote => hfirst ⟨hquote, rfl, rfl⟩
    | cons d before =>
      obtain ⟨rfl, htail⟩ := List.cons.inj hcs
      exact hrest before after htail

theorem Unpaired.of_append {more : List Char} (h : Unpaired a b quote (cs ++ more)) :
    Unpaired a b quote cs := by
  rintro before after rfl
  exact h before (after ++ more) (by simp)

/-- Where no pair crosses the border, two texts are without a pair together when both are. -/
theorem unpaired_append {more : List Char} (h : more.head? ≠ some b) :
    ∀ {cs : List Char} {quote : Option Char}, Unpaired a b quote (cs ++ more) ↔
      Unpaired a b quote cs ∧ Unpaired a b (cs.foldl quoteAfter quote) more
  | [], _ => ⟨fun hmore => ⟨unpaired_nil, hmore⟩, And.right⟩
  | c :: cs, quote => by
    have hborder : (cs ++ more).head? = some b ↔ cs.head? = some b := by
      cases cs with
      | nil => simp [h]
      | cons d cs => rfl
    rw [List.cons_append, unpaired_cons, unpaired_cons, unpaired_append h, hborder, List.foldl_cons,
      and_assoc]

theorem closedBy_nil : ClosedBy a b none [] := by
  refine ⟨rfl, fun before after h => ?_⟩
  have hlength := congrArg List.length h
  simp only [List.nil_append, List.length_append, List.length_cons, List.length_nil] at hlength
  omega

theorem closedBy_cons : ClosedBy a b quote (c :: cs) ↔
    ¬(quote = none ∧ c = a ∧ (cs ++ [a]).head? = some b) ∧
      ClosedBy a b (quoteAfter quote c) cs := by
  constructor
  · rintro ⟨hcloses, hfirst⟩
    obtain ⟨hhead, hrest⟩ := unpaired_cons.mp hfirst
    exact ⟨hhead, hcloses, hrest⟩
  · rintro ⟨hhead, hcloses, hrest⟩
    exact ⟨hcloses, unpaired_cons.mpr ⟨hhead, hrest⟩⟩

/-! ## The search that passes over literals -/

/-- The search goes on by one character, unless the pair stands right here. -/
theorem cutUnquoted_cons (ha : isQuote a = false) (quote : Option Char) (c : Char)
    (cs : List Char) : cutUnquoted a b quote (c :: cs) =
      if quote = none ∧ c = a ∧ cs.head? = some b then some ([], cs.drop 1)
      else (cutUnquoted a b (quoteAfter quote c) cs).map fun cut => (c :: cut.1, cut.2) := by
  cases quote with
  | some q =>
    rw [if_neg (by simp)]
    rfl
  | none =>
    rw [cutUnquoted]
    by_cases hc : isQuote c = true
    · have hne : c ≠ a := by
        rintro rfl
        exact absurd (ha.symm.trans hc) (by simp)
      have hopen : quoteAfter none c = some c := if_pos hc
      rw [if_pos (isQuote_iff.mp hc), if_neg fun h => hne h.2.1, hopen]
    · have hopen : quoteAfter none c = none := if_neg hc
      rw [if_neg fun h => hc (isQuote_iff.mpr h), hopen]
      by_cases hpair : c = a ∧ cs.head? = some b
      · rw [if_pos hpair, if_pos ⟨rfl, hpair⟩]
      · rw [if_neg hpair, if_neg fun h => hpair h.2]

/-- **The search fails when there is no pair outside literals.** -/
theorem cutUnquoted_eq_none_iff (ha : isQuote a = false) : ∀ {cs : List Char} {quote : Option Char},
    cutUnquoted a b quote cs = none ↔ Unpaired a b quote cs
  | [], _ => iff_of_true rfl unpaired_nil
  | c :: cs, quote => by
    rw [cutUnquoted_cons ha, unpaired_cons]
    by_cases hpair : quote = none ∧ c = a ∧ cs.head? = some b
    · rw [if_pos hpair]
      exact iff_of_false (by simp) fun h => h.1 hpair
    · rw [if_neg hpair, Option.map_eq_none_iff, cutUnquoted_eq_none_iff ha]
      exact (and_iff_right hpair).symm

/-- What stands behind a character does not matter for the beginning of a text. -/
theorem head?_append_cons (body : List Char) (a : Char) (after : List Char) :
    (body ++ a :: after).head? = (body ++ [a]).head? := by
  cases body with
  | nil => rfl
  | cons d body => rfl

/-- A text that ends at a pair is cut there, whatever follows. -/
theorem cutUnquoted_append (ha : isQuote a = false) (after : List Char) :
    ∀ {body : List Char} {quote : Option Char}, ClosedBy a b quote body →
      cutUnquoted a b quote (body ++ a :: b :: after) = some (body, after)
  | [], quote, h => by
    have hquote : quote = none := h.closes
    rw [List.nil_append, cutUnquoted_cons ha, if_pos ⟨hquote, rfl, rfl⟩]
    rfl
  | c :: body, quote, h => by
    obtain ⟨hpair, hbody⟩ := closedBy_cons.mp h
    rw [List.cons_append, cutUnquoted_cons ha, head?_append_cons, if_neg hpair,
      cutUnquoted_append ha after hbody]
    rfl

theorem closedBy_of_cutUnquoted (ha : isQuote a = false) : ∀ {cs body after : List Char}
    {quote : Option Char}, cutUnquoted a b quote cs = some (body, after) →
      cs = body ++ a :: b :: after ∧ ClosedBy a b quote body
  | [], body, after, quote, h => absurd h (by simp [cutUnquoted])
  | c :: cs, body, after, quote, h => by
    rw [cutUnquoted_cons ha] at h
    by_cases hpair : quote = none ∧ c = a ∧ cs.head? = some b
    · rw [if_pos hpair] at h
      obtain ⟨rfl, rfl⟩ := Prod.mk.inj (Option.some_inj.mp h)
      obtain ⟨rfl, rfl, hb⟩ := hpair
      obtain ⟨rest, rfl⟩ := List.head?_eq_some_iff.mp hb
      exact ⟨rfl, closedBy_nil⟩
    · rw [if_neg hpair] at h
      obtain ⟨⟨body', after'⟩, hcut, heq⟩ := Option.map_eq_some_iff.mp h
      obtain ⟨rfl, rfl⟩ := Prod.mk.inj heq
      obtain ⟨rfl, hclosed⟩ := closedBy_of_cutUnquoted ha hcut
      refine ⟨rfl, closedBy_cons.mpr ⟨fun hhit => hpair ⟨hhit.1, hhit.2.1, ?_⟩, hclosed⟩⟩
      exact (head?_append_cons body' a _).trans hhit.2.2

/-- **The search ends at the first pair outside literals.** -/
theorem cutUnquoted_eq_some_iff (ha : isQuote a = false) {body after : List Char} :
    cutUnquoted a b quote cs = some (body, after) ↔
      cs = body ++ a :: b :: after ∧ ClosedBy a b quote body := by
  refine ⟨closedBy_of_cutUnquoted ha, ?_⟩
  rintro ⟨rfl, hclosed⟩
  exact cutUnquoted_append ha after hclosed

/-! ## The search that does not -/

theorem pair_prefix_cons_iff : [a, b] <+: c :: cs ↔ c = a ∧ cs.head? = some b := by
  rw [List.cons_prefix_cons, eq_comm]
  cases cs with
  | nil => simp
  | cons d cs => simp [eq_comm]

/-- A pair of two characters does not begin at the end of a text. -/
theorem not_infix_concat (hab : a ≠ b) (h : ¬[a, b] <:+: cs) : ¬[a, b] <:+: cs ++ [a] := by
  rw [List.infix_concat_iff, not_or]
  refine ⟨fun hsuffix => hab ?_, h⟩
  obtain ⟨front, hfront⟩ := hsuffix
  have hlast := congrArg List.getLast? hfront
  rw [← List.singleton_append, ← List.append_assoc, List.getLast?_concat, List.getLast?_concat]
    at hlast
  exact (Option.some_inj.mp hlast).symm

/-- **The plain search fails when there is no pair.** -/
theorem cutPair_eq_none_iff : ∀ {cs : List Char}, cutPair a b cs = none ↔ ¬[a, b] <:+: cs
  | [] => iff_of_true rfl fun h => absurd (List.infix_nil.mp h) (by simp)
  | c :: cs => by
    rw [cutPair, List.infix_cons_iff, pair_prefix_cons_iff, not_or, ← cutPair_eq_none_iff]
    by_cases hpair : c = a ∧ cs.head? = some b
    · rw [if_pos hpair]
      exact iff_of_false (by simp) fun h => h.1 hpair
    · rw [if_neg hpair, Option.map_eq_none_iff]
      exact (and_iff_right hpair).symm

theorem cutPair_append (after : List Char) : ∀ {body : List Char}, ¬[a, b] <:+: body ++ [a] →
    cutPair a b (body ++ a :: b :: after) = some (body, after)
  | [], _ => by
    rw [List.nil_append, cutPair, if_pos ⟨rfl, rfl⟩]
    rfl
  | c :: body, h => by
    rw [List.cons_append, List.infix_cons_iff, pair_prefix_cons_iff, not_or] at h
    rw [List.cons_append, cutPair, head?_append_cons, if_neg h.1, cutPair_append after h.2]
    rfl

theorem eq_append_of_cutPair : ∀ {cs body after : List Char}, cutPair a b cs = some (body, after) →
    cs = body ++ a :: b :: after ∧ ¬[a, b] <:+: body ++ [a]
  | [], body, after, h => absurd h (by simp [cutPair])
  | c :: cs, body, after, h => by
    rw [cutPair] at h
    by_cases hpair : c = a ∧ cs.head? = some b
    · rw [if_pos hpair] at h
      obtain ⟨rfl, rfl⟩ := Prod.mk.inj (Option.some_inj.mp h)
      obtain ⟨rfl, hb⟩ := hpair
      obtain ⟨rest, rfl⟩ := List.head?_eq_some_iff.mp hb
      exact ⟨rfl, fun hinfix => absurd hinfix.length_le (by simp)⟩
    · rw [if_neg hpair] at h
      obtain ⟨⟨body', after'⟩, hcut, heq⟩ := Option.map_eq_some_iff.mp h
      obtain ⟨rfl, rfl⟩ := Prod.mk.inj heq
      obtain ⟨rfl, hfirst⟩ := eq_append_of_cutPair hcut
      refine ⟨rfl, ?_⟩
      rw [List.cons_append, List.infix_cons_iff, pair_prefix_cons_iff, not_or]
      refine ⟨fun hhit => hpair ⟨hhit.1, ?_⟩, hfirst⟩
      exact (head?_append_cons body' a _).trans hhit.2

/-- **The plain search ends at the first pair.** -/
theorem cutPair_eq_some_iff {body after : List Char} : cutPair a b cs = some (body, after) ↔
    cs = body ++ a :: b :: after ∧ ¬[a, b] <:+: body ++ [a] := by
  refine ⟨eq_append_of_cutPair, ?_⟩
  rintro ⟨rfl, hfirst⟩
  exact cutPair_append after hfirst

/-! ## The last bar -/

/-- No bar stands outside literals. -/
def Unbarred (quote : Option Char) (cs : List Char) : Prop :=
  ∀ before after, cs = before ++ '|' :: after → before.foldl quoteAfter quote ≠ none

theorem unbarred_cons : Unbarred quote (c :: cs) ↔
    ¬(quote = none ∧ c = '|') ∧ Unbarred (quoteAfter quote c) cs := by
  constructor
  · refine fun h => ⟨?_, fun before after hcs => ?_⟩
    · rintro ⟨rfl, rfl⟩
      exact h [] cs rfl rfl
    · exact h (c :: before) after (by rw [hcs]; rfl)
  · rintro ⟨hfirst, hrest⟩ before after hcs
    cases before with
    | nil => exact fun hquote => hfirst ⟨hquote, (List.cons.inj hcs).1⟩
    | cons d before =>
      obtain ⟨rfl, htail⟩ := List.cons.inj hcs
      exact hrest before after htail

theorem lastFilter_cons (quote : Option Char) (last : Option (List Char)) (c : Char)
    (cs : List Char) : lastFilter quote last (c :: cs) =
      lastFilter (quoteAfter quote c) (if quote = none ∧ c = '|' then some cs else last) cs := by
  cases quote with
  | some q =>
    rw [if_neg (by simp)]
    rfl
  | none =>
    rw [lastFilter]
    by_cases hc : isQuote c = true
    · have hne : c ≠ '|' := by
        rintro rfl
        exact absurd hc (by decide)
      have hopen : quoteAfter none c = some c := if_pos hc
      rw [if_pos (isQuote_iff.mp hc), if_neg fun h => hne h.2, hopen]
    · have hopen : quoteAfter none c = none := if_neg hc
      rw [if_neg fun h => hc (isQuote_iff.mpr h), hopen]
      by_cases hbar : c = '|'
      · rw [if_pos hbar, if_pos ⟨rfl, hbar⟩]
      · rw [if_neg hbar, if_neg fun h => hbar h.2]

theorem lastFilter_of_unbarred (last : Option (List Char)) : ∀ {cs : List Char}
    {quote : Option Char}, Unbarred quote cs → lastFilter quote last cs = last
  | [], _, _ => rfl
  | c :: cs, quote, h => by
    obtain ⟨hbar, hrest⟩ := unbarred_cons.mp h
    rw [lastFilter_cons, if_neg hbar, lastFilter_of_unbarred last hrest]

theorem lastFilter_append {filter : List Char} (h : Unbarred none filter) : ∀ {front : List Char}
    {quote : Option Char} {last : Option (List Char)}, front.foldl quoteAfter quote = none →
      lastFilter quote last (front ++ '|' :: filter) = some filter
  | [], quote, last, hfront => by
    have hquote : quote = none := hfront
    rw [List.nil_append, lastFilter_cons, if_pos ⟨hquote, rfl⟩, hquote]
    exact lastFilter_of_unbarred (some filter) h
  | c :: front, quote, last, hfront => by
    rw [List.cons_append, lastFilter_cons]
    exact lastFilter_append h hfront

/-- A text is without a bar or has a last one. -/
theorem unbarred_or_exists : ∀ (cs : List Char) (quote : Option Char), Unbarred quote cs ∨
    ∃ front filter, cs = front ++ '|' :: filter ∧ front.foldl quoteAfter quote = none ∧
      Unbarred none filter
  | [], _ => Or.inl fun before after h => absurd h (by simp)
  | c :: cs, quote => by
    rcases unbarred_or_exists cs (quoteAfter quote c) with hrest | ⟨front, filter, rfl, hfront, h⟩
    · by_cases hbar : quote = none ∧ c = '|'
      · obtain ⟨rfl, rfl⟩ := hbar
        exact Or.inr ⟨[], cs, rfl, rfl, hrest⟩
      · exact Or.inl (unbarred_cons.mpr ⟨hbar, hrest⟩)
    · exact Or.inr ⟨c :: front, filter, rfl, hfront, h⟩

/-- **The last filter stands behind the last bar.** -/
theorem lastFilter_eq_some_iff {filter : List Char} : lastFilter quote none cs = some filter ↔
    ∃ front, cs = front ++ '|' :: filter ∧ front.foldl quoteAfter quote = none ∧
      Unbarred none filter := by
  constructor
  · intro h
    rcases unbarred_or_exists cs quote with hnone | ⟨front, filter', rfl, hfront, hfilter⟩
    · exact absurd ((lastFilter_of_unbarred none hnone).symm.trans h) (by simp)
    · obtain rfl := Option.some_inj.mp ((lastFilter_append hfilter hfront).symm.trans h)
      exact ⟨front, rfl, hfront, hfilter⟩
  · rintro ⟨front, rfl, hfront, hfilter⟩
    exact lastFilter_append hfilter hfront

end TagTemplates
