import Mathlib.Data.List.TakeWhile
import TagTemplates.Proofs.Template.Pieces

/-!
# Finalized text is final

Finalizing a text keeps its pieces where they are: the text that an output gets lies outside string
literals and holds no closing marker, so it moves no border.  Every output is final then, and
finalizing once more changes nothing.

* `EndsInFallback`, `Hollow`, `FinalBody`: the outputs that are left alone.
* `Piece.FinalizedTo`: what a piece becomes.
* `finalBody_finalizeBody`, `closedBy_finalizeBody`: an output is final once it is finalized, and it
  ends where it did.
* `finalizeOutputs_final`: both for all pieces of a text.
* `finalizeOutputs_of_overlap`: a text that cannot be finalized.
-/

namespace TagTemplates

open Liquid

variable {body inner text : List Char} {p : Piece} {ps : List Piece}

/-! ## Outputs that are left alone -/

/-- A filter is the fallback filter, with or without arguments. -/
def NamesFallback (filter : List Char) : Prop :=
  ∃ rest, filter = fallbackFilter.toList ++ rest ∧
    ∀ c ∈ rest.head?, c = ':' ∨ Text.isBlank c = true

/-- The filter behind the last bar outside string literals is the fallback filter. -/
def EndsInFallback (body : List Char) : Prop :=
  ∃ front filter, body = front ++ '|' :: filter ∧ openQuote front = none ∧
    Unbarred none filter ∧ NamesFallback (Text.trim filter)

/-- Nothing but dashes, and white space around them. -/
def Hollow (body : List Char) : Prop :=
  ∃ before dashes after, body = before ++ (dashes ++ after) ∧
    (∀ c ∈ before, Text.isSpace c = true) ∧ (∀ c ∈ dashes, c = '-') ∧
    ∀ c ∈ after, Text.isSpace c = true

theorem isFallbackFilter_iff {filter : List Char} :
    isFallbackFilter filter = true ↔ NamesFallback filter := by
  rw [isFallbackFilter, Bool.and_eq_true, List.isPrefixOf_iff_prefix]
  constructor
  · rintro ⟨⟨rest, rfl⟩, hrest⟩
    rw [List.drop_left] at hrest
    refine ⟨rest, rfl, fun c hc => ?_⟩
    obtain ⟨more, rfl⟩ := List.head?_eq_some_iff.mp hc
    exact (Bool.or_eq_true_iff.mp hrest).imp_left beq_iff_eq.mp
  · rintro ⟨rest, rfl, hrest⟩
    refine ⟨List.prefix_append _ _, ?_⟩
    rw [List.drop_left]
    cases rest with
    | nil => rfl
    | cons c rest => exact Bool.or_eq_true_iff.mpr ((hrest c rfl).imp_left beq_iff_eq.mpr)

theorem endsInFallback_iff : endsInFallback body = true ↔ EndsInFallback body := by
  rw [endsInFallback, Option.any_eq_true]
  constructor
  · rintro ⟨filter, hlast, hfilter⟩
    obtain ⟨front, rfl, hfront, hbars⟩ := lastFilter_eq_some_iff.mp hlast
    exact ⟨front, filter, rfl, hfront, hbars, isFallbackFilter_iff.mp hfilter⟩
  · rintro ⟨front, filter, rfl, hfront, hbars, hfilter⟩
    exact ⟨filter, lastFilter_eq_some_iff.mpr ⟨front, rfl, hfront, hbars⟩,
      isFallbackFilter_iff.mpr hfilter⟩

theorem isHollow_iff : isHollow body = true ↔ Hollow body := by
  rw [isHollow, List.isEmpty_iff]
  constructor
  · intro h
    obtain ⟨before, after, hbody, hbefore, hafter⟩ := Text.exists_trim_append body
    obtain ⟨left, right, hrest, hleft, hright⟩ :=
      Text.exists_trim_append ((Text.trim body).dropWhile (· == '-'))
    rw [h, List.nil_append] at hrest
    refine ⟨before, (Text.trim body).takeWhile (· == '-'), (left ++ right) ++ after, ?_, hbefore,
      fun c hc => by simpa using List.mem_takeWhile_imp hc, ?_⟩
    · rw [← hrest, ← List.append_assoc (List.takeWhile _ _), List.takeWhile_append_dropWhile]
      exact hbody
    · exact List.forall_mem_append.mpr ⟨List.forall_mem_append.mpr ⟨hleft, hright⟩, hafter⟩
  · rintro ⟨before, dashes, after, rfl, hbefore, hdashes, hafter⟩
    cases dashes with
    | nil =>
      have hspace : ∀ c ∈ before ++ ([] ++ after), Text.isSpace c = true :=
        List.forall_mem_append.mpr ⟨hbefore, hafter⟩
      rw [Text.trim_of_forall hspace]
      rfl
    | cons d dashes =>
      have hend : Text.endsIn (· == '-') (d :: dashes) = true :=
        Text.endsIn_of_forall (List.cons_ne_nil d dashes) fun c hc => by simp [hdashes c hc]
      have htrim : Text.trim (before ++ (d :: dashes ++ after)) = d :: dashes := by
        refine Text.trim_append hbefore hafter (List.cons_ne_nil d dashes) ?_
          (Text.endsIn_eq_false (fun c hc => ?_) hend)
        · rw [Text.beginsIn, List.head?_cons, Option.any_some, hdashes d List.mem_cons_self]
          decide
        · rw [beq_iff_eq.mp hc]
          decide
      rw [htrim, List.dropWhile_eq_nil_iff.mpr fun c hc => by simp [hdashes c hc]]
      rfl

/-! ## What an output becomes -/

/-- The dash in front of the closing marker of an output, if there is one. -/
def trimMark (inner : List Char) : List Char := if (splitTrimMark inner).2 then ['-'] else []

/-- An output is left alone: without its closing dash it ends in the fallback filter or is
hollow. -/
def FinalBody (inner : List Char) : Prop :=
  EndsInFallback (splitTrimMark inner).1 ∨ Hollow (splitTrimMark inner).1

/-- The fallback filter with an empty text, as it is put behind an output. -/
def emptyFallback : List Char := fallbackSource ['\'', '\''] ++ [' ']

theorem splitTrimMark_concat (body : List Char) : splitTrimMark (body ++ ['-']) = (body, true) := by
  rw [splitTrimMark, List.getLast?_concat, if_pos rfl, List.dropLast_concat]

/-- An output is its body and its closing dash. -/
theorem append_trimMark (inner : List Char) :
    (splitTrimMark inner).1 ++ trimMark inner = inner := by
  rw [trimMark, splitTrimMark]
  by_cases h : inner.getLast? = some '-'
  · obtain ⟨front, rfl⟩ := List.getLast?_eq_some_iff.mp h
    rw [if_pos h, if_pos rfl, List.dropLast_concat]
  · rw [if_neg h, if_neg (by simp), List.append_nil]

/-- What finalization keeps of an output that it changes: the text in front of the white space at
the end of its body. -/
def keptBody (inner : List Char) : List Char :=
  Text.dropWhileEnd Text.isSpace (splitTrimMark inner).1

/-- An output is what is kept of it, white space, and its closing dash. -/
theorem exists_keptBody_append (inner : List Char) : ∃ blanks,
    (∀ c ∈ blanks, Text.isSpace c = true) ∧ (splitTrimMark inner).1 = keptBody inner ++ blanks ∧
      inner = keptBody inner ++ (blanks ++ trimMark inner) := by
  obtain ⟨blanks, hbody, hblanks⟩ :=
    Text.exists_dropWhileEnd_append Text.isSpace (splitTrimMark inner).1
  refine ⟨blanks, hblanks, hbody, ?_⟩
  rw [keptBody, ← List.append_assoc, ← hbody, append_trimMark]

theorem finalizeBody_of_final (h : FinalBody inner) : finalizeBody inner = inner := by
  have hkeep :
      (endsInFallback (splitTrimMark inner).1 || isHollow (splitTrimMark inner).1) = true :=
    Bool.or_eq_true_iff.mpr (h.imp endsInFallback_iff.mpr isHollow_iff.mpr)
  rw [finalizeBody]
  exact if_pos hkeep

theorem finalizeBody_of_not_final (h : ¬FinalBody inner) :
    finalizeBody inner = keptBody inner ++ (emptyFallback ++ trimMark inner) := by
  have hkeep :
      ¬(endsInFallback (splitTrimMark inner).1 || isHollow (splitTrimMark inner).1) = true :=
    fun hkeep => h ((Bool.or_eq_true_iff.mp hkeep).imp endsInFallback_iff.mp isHollow_iff.mp)
  rw [finalizeBody]
  refine (if_neg hkeep).trans ?_
  rw [keptBody, trimMark, emptyFallback, fallbackSource]
  simp only [List.append_assoc]
  rfl

/-- No literal is open behind what is kept, when none is open behind the output. -/
theorem openQuote_keptBody (h : openQuote inner = none) : openQuote (keptBody inner) = none := by
  obtain ⟨blanks, hblanks, -, hinner⟩ := exists_keptBody_append inner
  have hquotes : ∀ c ∈ blanks ++ trimMark inner, isQuote c = false := by
    refine List.forall_mem_append.mpr ⟨fun c hc => ?_, fun c hc => ?_⟩
    · exact Bool.eq_false_iff.mpr fun hq =>
        absurd ((hblanks c hc).symm.trans (isSpace_of_isQuote hq)) (by simp)
    · rw [trimMark] at hc
      split at hc
      · rw [List.mem_singleton.mp hc]
        rfl
      · exact absurd hc List.not_mem_nil
  rw [← openQuote_append _ hquotes, ← hinner]
  exact h

/-- The fallback filter with an empty text is a last filter, behind any text that ends outside
literals. -/
theorem endsInFallback_append {front : List Char} (h : openQuote front = none) :
    EndsInFallback (front ++ emptyFallback) := by
  refine ⟨front ++ [' '], " fallback: '' ".toList, ?_, ?_, ?_, [':', ' ', '\'', '\''], ?_,
    fun c hc => Or.inl (Option.some_inj.mp hc).symm⟩
  · rw [List.append_assoc]
    rfl
  · rw [openQuote_append front fun c hc => by rw [List.mem_singleton.mp hc]; rfl]
    exact h
  · intro before after hbar
    have hmem : '|' ∈ " fallback: '' ".toList :=
      hbar ▸ List.mem_append_right before List.mem_cons_self
    exact absurd hmem (by decide)
  · decide +kernel

theorem trimMark_append (front : List Char) (inner : List Char) :
    splitTrimMark (front ++ (emptyFallback ++ trimMark inner)) =
      (front ++ emptyFallback, (splitTrimMark inner).2) := by
  rw [trimMark]
  by_cases hmark : (splitTrimMark inner).2 = true
  · rw [if_pos hmark, ← List.append_assoc, splitTrimMark_concat, hmark]
  · have hlast : (front ++ emptyFallback).getLast? ≠ some '-' := by
      rw [emptyFallback, ← List.append_assoc, List.getLast?_concat]
      decide
    rw [if_neg hmark, List.append_nil, splitTrimMark_of_getLast? hlast,
      Bool.eq_false_iff.mpr hmark]

/-- **A finalized output is final.** -/
theorem finalBody_finalizeBody (h : openQuote inner = none) : FinalBody (finalizeBody inner) := by
  by_cases hfinal : FinalBody inner
  · rw [finalizeBody_of_final hfinal]
    exact hfinal
  · rw [finalizeBody_of_not_final hfinal, FinalBody, trimMark_append]
    exact Or.inl (endsInFallback_append (openQuote_keptBody h))

theorem openQuote_emptyFallback_append (front inner : List Char) (h : openQuote front = none) :
    openQuote (front ++ (emptyFallback ++ trimMark inner)) = none := by
  rw [openQuote, List.foldl_append, ← openQuote, h, trimMark]
  split
  · decide
  · decide

/-- **A finalized output ends where it did.** -/
theorem closedBy_finalizeBody (h : ClosedBy '}' '}' none inner) :
    ClosedBy '}' '}' none (finalizeBody inner) := by
  by_cases hfinal : FinalBody inner
  · rw [finalizeBody_of_final hfinal]
    exact h
  · obtain ⟨blanks, -, -, hinner⟩ := exists_keptBody_append inner
    have hkept : (keptBody inner).foldl quoteAfter none = none := openQuote_keptBody h.closes
    rw [finalizeBody_of_not_final hfinal]
    refine ⟨openQuote_emptyFallback_append _ _ hkept, ?_⟩
    rw [List.append_assoc]
    refine (unpaired_append ?_).mpr ⟨?_, ?_⟩
    · show some ' ' ≠ some '}'
      decide
    · -- what is kept is a beginning of the output
      have hfirst := h.first
      rw [hinner, List.append_assoc] at hfirst
      exact hfirst.of_append
    · rw [hkept, ← cutUnquoted_eq_none_iff rfl, trimMark]
      split
      · decide
      · decide

/-- How the inside of an output is finalized: it is final then, unchanged when it was final, and
else its fallback filter stands between the text and the closing dash; both dashes are kept. -/
structure BodyFinalizedTo (inner final : List Char) : Prop where
  isFinal : FinalBody final
  kept : FinalBody inner → final = inner
  extended : ¬FinalBody inner → ∃ front blanks, inner = front ++ blanks ++ trimMark inner ∧
    (∀ c ∈ blanks, Text.isSpace c = true) ∧ final = front ++ emptyFallback ++ trimMark inner
  opening : final.head? = inner.head?
  closing : trimMark final = trimMark inner

/-- How a piece is finalized: everything but an output is kept. -/
inductive Piece.FinalizedTo : Piece → Piece → Prop where
  | output {inner final : List Char} : BodyFinalizedTo inner final →
      FinalizedTo (.output inner) (.output final)
  | other {p : Piece} : (∀ inner, p ≠ .output inner) → FinalizedTo p p

/-- Something is kept of what is not hollow. -/
theorem keptBody_ne_nil (h : ¬FinalBody inner) : keptBody inner ≠ [] := by
  intro hnil
  obtain ⟨blanks, hblanks, hbody, -⟩ := exists_keptBody_append inner
  rw [hnil, List.nil_append] at hbody
  refine h (Or.inr ⟨blanks, [], [], ?_, hblanks, by simp, by simp⟩)
  rw [List.append_nil, List.append_nil, ← hbody]

theorem bodyFinalizedTo_finalizeBody (h : openQuote inner = none) :
    BodyFinalizedTo inner (finalizeBody inner) := by
  by_cases hfinal : FinalBody inner
  · rw [finalizeBody_of_final hfinal]
    exact ⟨hfinal, fun _ => rfl, fun hnot => absurd hfinal hnot, rfl, rfl⟩
  · have hafter := finalBody_finalizeBody h
    obtain ⟨blanks, hblanks, -, hinner⟩ := exists_keptBody_append inner
    obtain ⟨c, front, hkept⟩ := List.exists_cons_of_ne_nil (keptBody_ne_nil hfinal)
    rw [finalizeBody_of_not_final hfinal] at hafter ⊢
    refine ⟨hafter, fun hnot => absurd hnot hfinal,
      fun _ => ⟨keptBody inner, blanks, ?_, hblanks, ?_⟩, ?_, ?_⟩
    · rw [List.append_assoc]
      exact hinner
    · rw [List.append_assoc]
    · rw [hkept] at hinner ⊢
      rw [hinner]
      rfl
    · rw [trimMark, trimMark_append]
      rfl

/-! ## All pieces -/

theorem Piece.Shaped.finalizedTo (h : p.Shaped) : p.FinalizedTo p.finalize := by
  cases p with
  | plain chars => exact .other (by simp)
  | tag body => exact .other (by simp)
  | raw opening block => exact .other (by simp)
  | output body =>
    have hclosed : ClosedBy '}' '}' none body := h
    exact .output (bodyFinalizedTo_finalizeBody hclosed.closes)
  | unclosed chars => exact .other (by simp)

theorem Piece.Shaped.finalize (h : p.Shaped) : p.finalize.Shaped := by
  cases p with
  | plain chars => exact h
  | tag body => exact h
  | raw opening block => exact h
  | output body => exact closedBy_finalizeBody h
  | unclosed chars => exact h

/-- A final piece is kept. -/
theorem Piece.Shaped.finalize_finalize (h : p.Shaped) : p.finalize.finalize = p.finalize := by
  cases p with
  | plain chars => rfl
  | tag body => rfl
  | raw opening block => rfl
  | output body =>
    have hclosed : ClosedBy '}' '}' none body := h
    exact congrArg Piece.output (finalizeBody_of_final (finalBody_finalizeBody hclosed.closes))
  | unclosed chars => rfl

theorem ends_finalize (p : Piece) : p.finalize.Ends ↔ p.Ends := by
  cases p <;> exact Iff.rfl

theorem isPlain_finalize (p : Piece) : p.finalize.isPlain = p.isPlain := by
  cases p <;> rfl

/-- **Finalized pieces are the pieces of the finalized text.** -/
theorem PiecesOf.finalize (h : PiecesOf text ps) :
    PiecesOf (ps.flatMap fun p => p.finalize.source) (ps.map Piece.finalize) := by
  refine ⟨by rw [List.flatMap_map], ?_, ?_⟩
  · intro q hq
    obtain ⟨p, hp, rfl⟩ := List.mem_map.mp hq
    exact (h.shaped p hp).finalize
  · rw [List.isChain_map]
    refine h.isChain.imp fun p q hpq => ?_
    rw [ends_finalize, isPlain_finalize, isPlain_finalize]
    exact hpq

theorem finalizeOutputs_of_piecesOf (h : PiecesOf text ps) :
    finalizeOutputs text = .ok (ps.flatMap fun p => p.finalize.source) := by
  rw [finalizeOutputs, h.pieces_eq]

/-- **Finalized text is final.**  A text cannot be finalized exactly when a tag inside one of its
raw blocks has markers that share their percent sign.  Else the finalized text has the same pieces
in the same order: outputs are finalized, everything else is kept.  Finalizing it changes nothing. -/
theorem finalizeOutputs_final (text : List Char) :
    (∀ e, finalizeOutputs text = .error e ↔ e = .overlappingMarkers ∧ Overlaps text) ∧
      (¬Overlaps text → ∃ ps qs final, PiecesOf text ps ∧ finalizeOutputs text = .ok final ∧
        PiecesOf final qs ∧ List.Forall₂ Piece.FinalizedTo ps qs ∧
          finalizeOutputs final = .ok final) := by
  constructor
  · intro e
    rw [← pieces_eq_error_iff, finalizeOutputs]
    cases pieces text with
    | error e' => simp
    | ok ps => simp
  · intro hover
    obtain ⟨ps, hps⟩ := (piecesOf_or_overlaps text).resolve_right hover
    have hfinal := hps.finalize
    refine ⟨ps, ps.map Piece.finalize, _, hps, finalizeOutputs_of_piecesOf hps, hfinal, ?_, ?_⟩
    · rw [List.forall₂_map_right_iff, List.forall₂_same]
      exact fun p hp => (hps.shaped p hp).finalizedTo
    · rw [finalizeOutputs_of_piecesOf hfinal, List.flatMap_map]
      refine congrArg Except.ok (List.flatMap_congr fun p hp => ?_)
      rw [(hps.shaped p hp).finalize_finalize]

/-- An output with dashes, a raw block and an output without an end. -/
theorem finalizeOutputs_final_of_raw :
    let text := "a {{- x -}}{% raw %}{{ y }}{% endraw %}\x7b\x7b z".toList
    let final := "a \x7b\x7b- x | fallback: '' -\x7d\x7d".toList ++
      "{% raw %}{{ y }}{% endraw %}\x7b\x7b z".toList
    ¬Overlaps text ∧ finalizeOutputs text = .ok final ∧ finalizeOutputs final = .ok final := by
  intro text final
  have htext : finalizeOutputs text = .ok final := by decide +kernel
  obtain ⟨herror, hfinal⟩ := finalizeOutputs_final text
  have hover : ¬Overlaps text := fun hover =>
    absurd (htext.symm.trans ((herror _).mpr ⟨rfl, hover⟩)) (by simp)
  obtain ⟨ps, qs, found, -, hfound, -, -, hagain⟩ := hfinal hover
  obtain rfl : final = found := Except.ok.inj (htext.symm.trans hfound)
  exact ⟨hover, htext, hagain⟩

/-- In a raw block, a tag whose markers share their percent sign is the end of the run. -/
theorem finalizeOutputs_of_overlap :
    finalizeOutputs "{% raw %}{%}".toList = .error .overlappingMarkers ∧
      ¬∃ final, finalizeOutputs "{% raw %}{%}".toList = .ok final := by
  have herror : finalizeOutputs "{% raw %}{%}".toList = .error .overlappingMarkers := by
    decide +kernel
  refine ⟨herror, ?_⟩
  rintro ⟨final, hfinal⟩
  exact absurd (herror.symm.trans hfinal) (by simp)

end TagTemplates
