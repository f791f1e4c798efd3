import TagTemplates.Proofs.Liquid.Calls
import TagTemplates.Template.Output

/-!
# Finalizing expanded outputs

Finalization gives every output the fallback filter, unless it ends in this filter already.  A
marker or a bar inside a text in quotes counts for nothing, so an expanded tag is cut where it was
written to end, whatever its fallback is.

* `cutUnquoted_quoted`, `lastFilter_quoted`: a text in quotes is passed over.
* `finalizeOutputs_cons`, `finalizeOutputs_output`: text is kept, and an output is finalized.
* `finalizeBody_fallback`, `finalizeBody_bare`: an output keeps its own fallback, and a bare text
  gets an empty one behind it.
-/

namespace TagTemplates

open Liquid

/-- A character that neither opens a text in quotes nor closes an output. -/
def Unmarked (c : Char) : Prop := isQuote c = false ∧ c ≠ '}'

/-! ## Cutting at the end of an output -/

/-- Whether characters are neither quotes nor a mark can be computed. -/
theorem forall_mem_of_all {mark : Char} {run : List Char}
    (h : (run.all fun c => !isQuote c && c != mark) = true) :
    ∀ c ∈ run, isQuote c = false ∧ c ≠ mark := by
  intro c hc
  have hboth := List.all_eq_true.mp h c hc
  obtain ⟨hquote, hne⟩ := Bool.and_eq_true_iff.mp hboth
  exact ⟨by simpa using hquote, by simpa using hne⟩

theorem not_quote_of_isQuote_eq_false {c : Char} (h : isQuote c = false) :
    ¬(c = '\'' ∨ c = '"') := by
  rintro (rfl | rfl)
  · exact absurd h (by decide)
  · exact absurd h (by decide)

theorem quote_of_isQuote {q : Char} (h : isQuote q = true) : q = '\'' ∨ q = '"' :=
  (eq_of_isQuote h).symm

/-- Characters without a meaning are passed over. -/
theorem cutUnquoted_unmarked : ∀ {run : List Char}, (∀ c ∈ run, Unmarked c) → ∀ rest : List Char,
    cutUnquoted '}' '}' none (run ++ rest) =
      (cutUnquoted '}' '}' none rest).map fun cut => (run ++ cut.1, cut.2)
  | [], _, rest => by
    cases h : cutUnquoted '}' '}' none rest with
    | none => rw [List.nil_append, h, Option.map_none]
    | some cut => rw [List.nil_append, h, Option.map_some, List.nil_append]
  | c :: run, hrun, rest => by
    obtain ⟨hquote, hclose⟩ := hrun c List.mem_cons_self
    have ih := cutUnquoted_unmarked (fun d hd => hrun d (List.mem_cons_of_mem c hd)) rest
    rw [List.cons_append, cutUnquoted, if_neg (not_quote_of_isQuote_eq_false hquote),
      if_neg fun h => hclose h.1, ih, Option.map_map]
    rfl

/-- Up to the closing quote nothing has a meaning. -/
theorem cutUnquoted_some {q : Char} : ∀ {text : List Char}, q ∉ text → ∀ rest : List Char,
    cutUnquoted '}' '}' (some q) (text ++ q :: rest) =
      (cutUnquoted '}' '}' none rest).map fun cut => (text ++ q :: cut.1, cut.2)
  | [], _, rest => by
    rw [List.nil_append, cutUnquoted, if_pos rfl]
    rfl
  | c :: text, h, rest => by
    rw [List.mem_cons, not_or] at h
    rw [List.cons_append, cutUnquoted, if_neg fun heq => h.1 heq.symm, cutUnquoted_some h.2,
      Option.map_map]
    rfl

/-- A text in quotes is passed over. -/
theorem cutUnquoted_quoted {q : Char} (hq : isQuote q = true) {text : List Char} (h : q ∉ text)
    (rest : List Char) :
    cutUnquoted '}' '}' none (q :: (text ++ q :: rest)) =
      (cutUnquoted '}' '}' none rest).map fun cut => (q :: (text ++ q :: cut.1), cut.2) := by
  rw [cutUnquoted, if_pos (quote_of_isQuote hq), cutUnquoted_some h, Option.map_map]
  rfl

/-- An output that holds one text in quotes is cut at its end. -/
theorem cutUnquoted_output {q : Char} (hq : isQuote q = true) {before text behind : List Char}
    (h : q ∉ text) (hbefore : ∀ c ∈ before, Unmarked c) (hbehind : ∀ c ∈ behind, Unmarked c)
    (after : List Char) :
    cutUnquoted '}' '}' none (before ++ (q :: (text ++ q :: (behind ++ '}' :: '}' :: after)))) =
      some (before ++ (q :: (text ++ q :: behind)), after) := by
  have hclose : cutUnquoted '}' '}' none ('}' :: '}' :: after) = some ([], after) := by
    rw [cutUnquoted, if_neg (by decide), if_pos ⟨rfl, rfl⟩]
    rfl
  rw [cutUnquoted_unmarked hbefore, cutUnquoted_quoted hq h, cutUnquoted_unmarked hbehind, hclose]
  simp only [Option.map_some, List.append_nil]

/-! ## The last filter of an output -/

theorem lastFilter_unbarred : ∀ {run : List Char}, (∀ c ∈ run, isQuote c = false ∧ c ≠ '|') →
    ∀ (last : Option (List Char)) (rest : List Char),
      lastFilter none last (run ++ rest) = lastFilter none last rest
  | [], _, last, rest => rfl
  | c :: run, hrun, last, rest => by
    obtain ⟨hquote, hbar⟩ := hrun c List.mem_cons_self
    rw [List.cons_append, lastFilter, if_neg (not_quote_of_isQuote_eq_false hquote), if_neg hbar,
      lastFilter_unbarred fun d hd => hrun d (List.mem_cons_of_mem c hd)]

theorem lastFilter_some {q : Char} : ∀ {text : List Char}, q ∉ text →
    ∀ (last : Option (List Char)) (rest : List Char),
      lastFilter (some q) last (text ++ q :: rest) = lastFilter none last rest
  | [], _, last, rest => by rw [List.nil_append, lastFilter, if_pos rfl]
  | c :: text, h, last, rest => by
    rw [List.mem_cons, not_or] at h
    rw [List.cons_append, lastFilter, if_neg fun heq => h.1 heq.symm, lastFilter_some h.2]

/-- A text in quotes is passed over. -/
theorem lastFilter_quoted {q : Char} (hq : isQuote q = true) {text : List Char} (h : q ∉ text)
    (last : Option (List Char)) (rest : List Char) :
    lastFilter none last (q :: (text ++ q :: rest)) = lastFilter none last rest := by
  rw [lastFilter, if_pos (quote_of_isQuote hq), lastFilter_some h]

/-! ## Pieces that are put together again -/

/-- Put a character of text in front of pieces. -/
def consPlain (c : Char) : List Piece → List Piece
  | .plain chars :: rest => .plain (c :: chars) :: rest
  | rest => .plain [c] :: rest

theorem flatMap_consPlain (c : Char) (ps : List Piece) :
    ((consPlain c ps).flatMap fun p => p.finalize.source) =
      c :: ps.flatMap fun p => p.finalize.source := by
  cases ps with
  | nil => rfl
  | cons piece rest =>
    cases piece with
    | plain chars => rfl
    | tag body => rfl
    | raw opening block => rfl
    | output body => rfl
    | unclosed chars => rfl

/-- A text begins with an opening marker. -/
def OpensMarker (cs : List Char) : Prop := ['{', '{'] <+: cs ∨ ['{', '%'] <+: cs

/-- A character that opens no marker is text. -/
theorem pieces_cons {c : Char} {cs : List Char} (h : ¬OpensMarker (c :: cs)) :
    pieces (c :: cs) = (pieces cs).map (consPlain c) := by
  rw [pieces]
  · cases pieces cs with
    | error e => rfl
    | ok ps =>
      cases ps with
      | nil => rfl
      | cons piece rest =>
        cases piece with
        | plain chars => rfl
        | tag body => rfl
        | raw opening block => rfl
        | output body => rfl
        | unclosed chars => rfl
  · rintro inside rfl rfl
    exact h (Or.inl (List.prefix_append ['{', '{'] inside))
  · rintro inside rfl rfl
    exact h (Or.inr (List.prefix_append ['{', '%'] inside))

/-- An output that closes is a piece. -/
theorem pieces_output {body after : List Char}
    (h : cutUnquoted '}' '}' none (body ++ '}' :: '}' :: after) = some (body, after)) :
    pieces ('{' :: '{' :: (body ++ '}' :: '}' :: after)) =
      (pieces after).map (.output body :: ·) := by
  rw [pieces]
  split
  · next hcut => exact absurd (h.symm.trans hcut) (by simp)
  · next body' after' hcut =>
    obtain ⟨rfl, rfl⟩ := Prod.mk.inj (Option.some_inj.mp (h.symm.trans hcut))
    cases pieces after with
    | error e => rfl
    | ok ps => rfl

/-- Text is kept. -/
theorem finalizeOutputs_cons {c : Char} (h : c ≠ '{') (cs : List Char) :
    finalizeOutputs (c :: cs) = (finalizeOutputs cs).map (c :: ·) := by
  have hmarker : ¬OpensMarker (c :: cs) := by
    rintro (hopen | hopen)
    · exact h (List.cons_prefix_cons.mp hopen).1.symm
    · exact h (List.cons_prefix_cons.mp hopen).1.symm
  rw [finalizeOutputs, finalizeOutputs, pieces_cons hmarker]
  cases pieces cs with
  | error e => rfl
  | ok ps => exact congrArg Except.ok (flatMap_consPlain c ps)

/-- An output is finalized. -/
theorem finalizeOutputs_output {body after : List Char}
    (h : cutUnquoted '}' '}' none (body ++ '}' :: '}' :: after) = some (body, after)) :
    finalizeOutputs ('{' :: '{' :: (body ++ '}' :: '}' :: after)) =
      (finalizeOutputs after).map fun rest =>
        '{' :: '{' :: (finalizeBody body ++ '}' :: '}' :: rest) := by
  rw [finalizeOutputs, finalizeOutputs, pieces_output h]
  cases pieces after with
  | error e => rfl
  | ok ps =>
    simp only [List.flatMap_cons, Piece.finalize, Piece.source, Except.map, List.cons_append,
      List.append_assoc, List.nil_append]

/-! ## The inside of an output -/

theorem dropWhileEnd_append_singleton {p : Char → Bool} {c : Char} (h : p c = false)
    (cs : List Char) : Text.dropWhileEnd p (cs ++ [c]) = cs ++ [c] := by
  unfold Text.dropWhileEnd
  rw [List.reverse_append, List.reverse_singleton, List.singleton_append, List.dropWhile_cons,
    if_neg (by simp [h]), List.reverse_cons, List.reverse_reverse]

theorem dropWhileEnd_append_of_true {p : Char → Bool} {c : Char} (h : p c = true)
    (cs : List Char) : Text.dropWhileEnd p (cs ++ [c]) = Text.dropWhileEnd p cs := by
  unfold Text.dropWhileEnd
  rw [List.reverse_append, List.reverse_singleton, List.singleton_append, List.dropWhile_cons,
    if_pos h]

theorem isSpace_of_isQuote {q : Char} (h : isQuote q = true) : Text.isSpace q = false := by
  rcases eq_of_isQuote h with rfl | rfl
  · decide
  · decide

/-- A text in quotes has no white space at its end. -/
theorem trim_quoted {q : Char} (hq : isQuote q = true) {c : Char} (hc : Text.isSpace c = false)
    (inside : List Char) : Text.trim (c :: (inside ++ [q])) = c :: (inside ++ [q]) := by
  rw [Text.trim, Text.trimBoth, List.dropWhile_cons, if_neg (by simp [hc]), ← List.cons_append,
    dropWhileEnd_append_singleton (isSpace_of_isQuote hq)]

theorem splitTrimMark_of_getLast? {body : List Char} (h : body.getLast? ≠ some '-') :
    splitTrimMark body = (body, false) := if_neg h

theorem trim_cons_of_isSpace {c : Char} (h : Text.isSpace c = true) (cs : List Char) :
    Text.trim (c :: cs) = Text.trim cs := by
  rw [Text.trim, Text.trimBoth, List.dropWhile_cons, if_pos h]
  rfl

theorem isFallbackFilter_append (rest : List Char) :
    isFallbackFilter (fallbackFilter.toList ++ ':' :: rest) = true := by
  have hprefix : fallbackFilter.toList.isPrefixOf (fallbackFilter.toList ++ ':' :: rest) = true :=
    List.isPrefixOf_iff_prefix.mpr (List.prefix_append _ _)
  rw [isFallbackFilter, hprefix, List.drop_left]
  rfl

/-- What stands behind the bar of the fallback filter. -/
theorem isFallbackFilter_trim {q : Char} (hq : isQuote q = true) (text : List Char) :
    isFallbackFilter (Text.trim
      ((' ' :: fallbackFilter.toList ++ [':', ' ']) ++ (q :: (text ++ [q])))) = true := by
  have hsource : (' ' :: fallbackFilter.toList ++ [':', ' ']) ++ (q :: (text ++ [q])) =
      ' ' :: 'f' :: ((fallbackFilter.toList.drop 1 ++ (':' :: ' ' :: q :: text)) ++ [q]) := by
    rw [List.append_assoc]
    rfl
  have htail : 'f' :: ((fallbackFilter.toList.drop 1 ++ (':' :: ' ' :: q :: text)) ++ [q]) =
      fallbackFilter.toList ++ ':' :: (' ' :: q :: (text ++ [q])) := by
    rw [List.append_assoc]
    rfl
  rw [hsource, trim_cons_of_isSpace (by decide), trim_quoted hq (by decide), htail,
    isFallbackFilter_append]

/-- **An output that ends in the fallback filter is kept.** -/
theorem finalizeBody_fallback {q : Char} (hq : isQuote q = true) {text before : List Char}
    (h : q ∉ text) (hbefore : ∀ c ∈ before, isQuote c = false ∧ c ≠ '|') :
    finalizeBody (before ++ fallbackSource (q :: text ++ [q])) =
      before ++ fallbackSource (q :: text ++ [q]) := by
  have hsource : before ++ fallbackSource (q :: text ++ [q]) =
      (before ++ [' ']) ++ '|' ::
        ((' ' :: fallbackFilter.toList ++ [':', ' ']) ++ (q :: (text ++ [q]))) := by
    have happend := fallbackSource_append q text []
    rw [List.append_nil] at happend
    rw [happend]
    simp only [List.cons_append, List.nil_append, List.append_assoc]
  have hname : ∀ c ∈ ' ' :: fallbackFilter.toList ++ [':', ' '], isQuote c = false ∧ c ≠ '|' :=
    forall_mem_of_all (by decide)
  have hgap : ∀ c ∈ before ++ [' '], isQuote c = false ∧ c ≠ '|' := by
    intro c hc
    rcases List.mem_append.mp hc with hc | hc
    · exact hbefore c hc
    · rw [List.mem_singleton.mp hc]
      decide
  have hlast : lastFilter none none (before ++ fallbackSource (q :: text ++ [q])) =
      some ((' ' :: fallbackFilter.toList ++ [':', ' ']) ++ (q :: (text ++ [q]))) := by
    rw [hsource, lastFilter_unbarred hgap, lastFilter, if_neg (by decide), if_pos rfl,
      lastFilter_unbarred hname, lastFilter_quoted hq h, lastFilter]
  have hmark : (before ++ fallbackSource (q :: text ++ [q])).getLast? ≠ some '-' := by
    have hend : before ++ fallbackSource (q :: text ++ [q]) =
        (before ++ [' '] ++ '|' :: ((' ' :: fallbackFilter.toList ++ [':', ' ']) ++ (q :: text))) ++
          [q] := by
      rw [hsource]
      simp only [List.cons_append, List.nil_append, List.append_assoc]
    rw [hend, List.getLast?_concat]
    rcases eq_of_isQuote hq with rfl | rfl
    · decide
    · decide
  have hends : endsInFallback (before ++ fallbackSource (q :: text ++ [q])) = true := by
    rw [endsInFallback, hlast, Option.any_some, isFallbackFilter_trim hq]
  rw [finalizeBody, splitTrimMark_of_getLast? hmark]
  simp only [hends, Bool.true_or]
  rfl

/-- **A bare text in quotes gets the fallback filter**, with an empty text. -/
theorem finalizeBody_bare {q : Char} (hq : isQuote q = true) {text : List Char} (h : q ∉ text) :
    finalizeBody (' ' :: (q :: text ++ [q]) ++ [' ']) =
      ' ' :: (q :: text ++ [q]) ++ (fallbackSource ['\'', '\''] ++ [' ']) := by
  have hsource : ' ' :: (q :: text ++ [q]) ++ [' '] = [' '] ++ (q :: (text ++ q :: [' '])) := by
    simp only [List.cons_append, List.nil_append, List.append_assoc]
  have hmark : (' ' :: (q :: text ++ [q]) ++ [' ']).getLast? ≠ some '-' := by
    rw [List.getLast?_concat]
    decide
  have hlast : lastFilter none none (' ' :: (q :: text ++ [q]) ++ [' ']) = none := by
    have hblank : ∀ c ∈ [' '], isQuote c = false ∧ c ≠ '|' := forall_mem_of_all (by decide)
    rw [hsource, lastFilter_unbarred hblank, lastFilter_quoted hq h, ← List.append_nil [' '],
      lastFilter_unbarred hblank, lastFilter]
  have hends : endsInFallback (' ' :: (q :: text ++ [q]) ++ [' ']) = false := by
    rw [endsInFallback, hlast, Option.any_none]
  have hend : Text.dropWhileEnd Text.isSpace (' ' :: (q :: text ++ [q]) ++ [' ']) =
      ' ' :: (q :: text ++ [q]) := by
    rw [dropWhileEnd_append_of_true (by decide), ← List.cons_append,
      dropWhileEnd_append_singleton (isSpace_of_isQuote hq)]
  have htrim : Text.trim (' ' :: (q :: text ++ [q]) ++ [' ']) = q :: (text ++ [q]) := by
    rw [List.cons_append, trim_cons_of_isSpace (by decide), Text.trim, Text.trimBoth,
      List.cons_append, List.cons_append, List.dropWhile_cons,
      if_neg (by simp [isSpace_of_isQuote hq]), ← List.cons_append,
      dropWhileEnd_append_of_true (by decide), ← List.cons_append,
      dropWhileEnd_append_singleton (isSpace_of_isQuote hq)]
  have hdash : ¬(q == '-') = true := by
    rcases eq_of_isQuote hq with rfl | rfl
    · decide
    · decide
  have hhollow : isHollow (' ' :: (q :: text ++ [q]) ++ [' ']) = false := by
    rw [isHollow, htrim, List.dropWhile_cons, if_neg hdash,
      trim_quoted hq (isSpace_of_isQuote hq)]
    rfl
  rw [finalizeBody, splitTrimMark_of_getLast? hmark]
  simp only [hends, hhollow, Bool.or_false, hend]
  rw [fallbackSource]
  simp only [List.append_assoc]
  rfl

end TagTemplates
