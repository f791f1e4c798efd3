import Mathlib.Data.List.Nodup
import TagTemplates.Proofs.Table.RowForest

/-!
# How rows lie in a text

The spans of the rows are found, or they are not: then some row tag has no partner.  A closing tag
has none when, from it backwards, no more rows are opened than closed up to any tag, and an opening
tag has none when, from it on, no more rows are closed than opened.

* `RowTag.ClosesNothing`, `RowTag.StaysOpen`: tags without a partner; `matchTags_eq_none_iff` says
  that the stack finds no spans exactly when there is one.
* `RowForest.map_start`, `RowForest.perm_map_stop`: every opening tag begins one span, and every
  closing tag ends one.
* `RowTag.within`, `RowForest.within_eq_of_mem`: the tags that stand in a span.
* `RowLayout`: all that is true of the spans, with `RowForest.layout`.
* `rowSpans_layout`: the row spans of every text.
-/

namespace TagTemplates

namespace RowTag

variable {tags back : List RowTag} {tag : RowTag}

/-! ## Tags without a partner -/

/-- Some closing tag has no open one before it. -/
def ClosesNothing (tags : List RowTag) : Prop :=
  ∃ before closing after, tags = before ++ closing :: after ∧ closing.isOpening = false ∧
    ∀ back, back <:+ before → openings back ≤ closings back

/-- Some opening tag stays open to the end. -/
def StaysOpen (tags : List RowTag) : Prop :=
  ∃ before opening after, tags = before ++ opening :: after ∧ opening.isOpening = true ∧
    ∀ front, front <+: after → closings front ≤ openings front

/-- Balanced tags never open more than they close, seen from the end. -/
theorem Balanced.openings_le_of_suffix (h : Balanced tags) (hback : back <:+ tags) :
    openings back ≤ closings back := by
  obtain ⟨front, rfl⟩ := hback
  have hle := h.sane front (List.prefix_append front back)
  have hsettled := h.settled
  rw [openings_append, closings_append] at hsettled
  omega

theorem Balanced.not_closesNothing (h : Balanced tags) : ¬ClosesNothing tags := by
  rintro ⟨before, closing, after, rfl, hclosing, hnone⟩
  have hbefore := hnone before (List.suffix_refl before)
  have hle := h.sane (before ++ [closing]) ⟨after, by simp⟩
  obtain ⟨hopened, hclosed⟩ := counts_cons_of_closing hclosing []
  rw [openings_append, closings_append, hopened, hclosed] at hle
  have hnil : openings [] = 0 ∧ closings [] = 0 := ⟨rfl, rfl⟩
  omega

theorem Balanced.not_staysOpen (h : Balanced tags) : ¬StaysOpen tags := by
  rintro ⟨before, opening, after, rfl, hopening, hopen⟩
  have hafter := hopen after (List.prefix_refl after)
  have hle := h.sane before (List.prefix_append before (opening :: after))
  have hsettled := h.settled
  obtain ⟨hopened, hclosed⟩ := counts_cons_of_opening hopening after
  rw [openings_append, closings_append, hopened, hclosed] at hsettled
  omega

end RowTag

/-- Of tags that are not all closed, some opening one stays open. -/
theorem Unclosed.staysOpen {tags : List RowTag} (h : Unclosed tags) : RowTag.StaysOpen tags := by
  induction h with
  | @last opening rest behind hopening hrest =>
    exact ⟨[], opening, rest, rfl, hopening, hrest.balanced.sane⟩
  | @outer opening rest _ _ ih =>
    obtain ⟨before, inner, after, rfl, hinner⟩ := ih
    exact ⟨opening :: before, inner, after, rfl, hinner⟩
  | @behind before rest spans _ _ ih =>
    obtain ⟨front, inner, after, rfl, hinner⟩ := ih
    exact ⟨before ++ front, inner, after, by simp, hinner⟩

/-- **The stack finds no spans** exactly when some tag has no partner. -/
theorem matchTags_eq_none_iff {tags : List RowTag} :
    matchTags [] [] tags = none ↔ RowTag.ClosesNothing tags ∨ RowTag.StaysOpen tags := by
  constructor
  · intro h
    rcases RowForest.exists_or_unclosed tags with ⟨spans, hforest⟩ |
      ⟨before, spans, closing, rest, hbefore, hclosing, rfl⟩ | hunclosed
    · rw [matchTags_eq_some_iff.mpr hforest] at h
      exact absurd h (by simp)
    · exact Or.inl ⟨before, closing, rest, rfl, hclosing,
        fun back hback => hbefore.balanced.openings_le_of_suffix hback⟩
    · exact Or.inr hunclosed.staysOpen
  · intro h
    cases hmatch : matchTags [] [] tags with
    | none => rfl
    | some spans =>
      have hbalanced := (matchTags_eq_some_iff.mp hmatch).balanced
      rcases h with hcloses | hopen
      · exact absurd hcloses hbalanced.not_closesNothing
      · exact absurd hopen hbalanced.not_staysOpen

/-! ## Where spans begin and end -/

/-- The tags that stand in a span. -/
def RowTag.within (span : Span) (tags : List RowTag) : List RowTag :=
  tags.filter fun tag => span.start ≤ tag.start ∧ tag.stop ≤ span.stop

/-- What spans tell about the row tags that they come from. -/
structure RowLayout (tags : List RowTag) (spans : List Span) : Prop where
  /-- There is a span for each opening tag, and it starts where the tag does. -/
  starts : spans.map Span.start = (tags.filter (·.isOpening)).map RowTag.start
  /-- The spans stand in the order of their starts. -/
  ordered : spans.Pairwise fun span later => span.start < later.start
  start_lt_stop : ∀ span ∈ spans, span.start < span.stop
  /-- A span starts with an opening tag and stops behind a closing one. -/
  ends : ∀ span ∈ spans, ∃ opening ∈ tags, ∃ closing ∈ tags, opening.isOpening = true ∧
    closing.isOpening = false ∧ span = ⟨opening.start, closing.stop⟩
  /-- In a span, as many tags open as close. -/
  balanced : ∀ span ∈ spans,
    RowTag.openings (RowTag.within span tags) = RowTag.closings (RowTag.within span tags)
  /-- Each closing tag ends a single span. -/
  existsUnique : ∀ tag ∈ tags, tag.isOpening = false →
    ∃! span, span ∈ spans ∧ span.stop = tag.stop
  /-- Of two spans the later one stands behind the other, or inside of it. -/
  nested : spans.Pairwise fun span later => span.stop ≤ later.start ∨
    (span.start < later.start ∧ later.stop < span.stop)

namespace RowForest

variable {tags : List RowTag} {spans : List Span} {span : Span}

/-- Every opening tag begins a span, in the order of the tags. -/
theorem map_start (h : RowForest tags spans) :
    spans.map Span.start = (tags.filter (·.isOpening)).map RowTag.start := by
  induction h with
  | nil => rfl
  | @row opening closing inner rest within behind hopening hclosing _ _ ihinner ihrest =>
    rw [List.cons_append, List.filter_cons_of_pos hopening, List.filter_append,
      List.filter_cons_of_neg (by simp [hclosing]), List.map_cons, List.map_append, ihinner, ihrest,
      List.map_cons, List.map_append]

/-- Every closing tag ends a span. -/
theorem perm_map_stop (h : RowForest tags spans) :
    (spans.map Span.stop).Perm ((tags.filter (!·.isOpening)).map RowTag.stop) := by
  induction h with
  | nil => exact .refl []
  | @row opening closing inner rest within behind hopening hclosing _ _ ihinner ihrest =>
    rw [List.cons_append, List.filter_cons_of_neg (by simp [hopening]), List.filter_append,
      List.filter_cons_of_pos (by simp [hclosing]), List.map_cons, List.map_append, List.map_append,
      List.map_cons]
    -- The outer row ends behind its inner ones, and its span stands in front of theirs.
    exact ((ihinner.append ihrest).cons closing.stop).trans List.perm_middle.symm

/-- The tags that stand in a row are the ones from its opening tag to its closing one. -/
theorem within_eq {before inner after : List RowTag} {opening closing : RowTag}
    (hordered : (before ++ (opening :: inner ++ [closing]) ++ after).Pairwise
      fun tag next => tag.stop ≤ next.start)
    (hpos : ∀ tag ∈ before ++ (opening :: inner ++ [closing]) ++ after, tag.start < tag.stop) :
    RowTag.within ⟨opening.start, closing.stop⟩
        (before ++ (opening :: inner ++ [closing]) ++ after) = opening :: inner ++ [closing] := by
  obtain ⟨hfront, -, hbehind⟩ := List.pairwise_append.mp hordered
  obtain ⟨-, hrow, hahead⟩ := List.pairwise_append.mp hfront
  have hfirst : ∀ tag ∈ opening :: inner ++ [closing], opening.start ≤ tag.start := by
    rw [List.cons_append] at hrow ⊢
    refine List.forall_mem_cons.mpr ⟨Nat.le_refl _, fun tag htag => ?_⟩
    have hle := (List.pairwise_cons.mp hrow).1 tag htag
    have hlt := hpos opening (by simp)
    omega
  have hlast : ∀ tag ∈ opening :: inner ++ [closing], tag.stop ≤ closing.stop := by
    refine List.forall_mem_append.mpr ⟨fun tag htag => ?_, by simp⟩
    have hle := (List.pairwise_append.mp hrow).2.2 tag htag closing List.mem_cons_self
    have hlt := hpos closing (by simp)
    omega
  rw [RowTag.within, List.filter_append, List.filter_append, List.filter_eq_nil_iff.mpr,
    List.filter_eq_self.mpr, List.filter_eq_nil_iff.mpr, List.nil_append, List.append_nil]
  · intro tag htag
    have hle := hbehind closing (by simp) tag htag
    have hlt := hpos tag (by simp [htag])
    simp only [decide_eq_true_eq]
    omega
  · exact fun tag htag => decide_eq_true ⟨hfirst tag htag, hlast tag htag⟩
  · intro tag htag
    have hle := hahead tag htag opening (by simp)
    have hlt := hpos tag (by simp [htag])
    simp only [decide_eq_true_eq]
    omega

/-- In a row, as many tags open as close. -/
theorem openings_within_eq (h : RowForest tags spans)
    (hordered : tags.Pairwise fun tag next => tag.stop ≤ next.start)
    (hpos : ∀ tag ∈ tags, tag.start < tag.stop) (hspan : span ∈ spans) :
    RowTag.openings (RowTag.within span tags) = RowTag.closings (RowTag.within span tags) := by
  obtain ⟨before, opening, inner, closing, after, rfl, hopening, hclosing, hinner, rfl⟩ :=
    h.exists_of_mem hspan
  rw [within_eq hordered hpos]
  exact (hinner.row hopening hclosing).settled.symm

/-- Each closing tag ends a single row. -/
theorem existsUnique_of_closing (h : RowForest tags spans)
    (hordered : tags.Pairwise fun tag next => tag.stop ≤ next.start)
    (hpos : ∀ tag ∈ tags, tag.start < tag.stop) {tag : RowTag} (htag : tag ∈ tags)
    (hclosing : tag.isOpening = false) : ∃! span, span ∈ spans ∧ span.stop = tag.stop := by
  have hstops : tags.Pairwise fun tag next => tag.stop ≠ next.stop :=
    hordered.imp_of_mem fun _ hnext hle => by
      have hlt := hpos _ hnext
      omega
  have hnodup : (spans.map Span.stop).Nodup :=
    h.perm_map_stop.nodup_iff.mpr (List.pairwise_map.mpr (hstops.filter _))
  have hmem : tag.stop ∈ spans.map Span.stop := by
    refine h.perm_map_stop.mem_iff.mpr (List.mem_map_of_mem (List.mem_filter.mpr ⟨htag, ?_⟩))
    rw [hclosing]
    rfl
  obtain ⟨span, hspan, hstop⟩ := List.mem_map.mp hmem
  refine ⟨span, ⟨hspan, hstop⟩, fun other hother => ?_⟩
  exact List.inj_on_of_nodup_map hnodup hother.1 hspan (hother.2.trans hstop.symm)

/-- **How the rows of a forest lie.** -/
theorem layout (h : RowForest tags spans)
    (hordered : tags.Pairwise fun tag next => tag.stop ≤ next.start)
    (hpos : ∀ tag ∈ tags, tag.start < tag.stop) : RowLayout tags spans where
  starts := h.map_start
  ordered := (h.pairwise hordered hpos).imp fun hpair => hpair.1
  start_lt_stop _ hspan := h.start_lt_stop hordered hpos hspan
  ends span hspan := by
    obtain ⟨before, opening, inner, closing, after, rfl, hopening, hclosing, -, rfl⟩ :=
      h.exists_of_mem hspan
    exact ⟨opening, by simp, closing, by simp, hopening, hclosing, rfl⟩
  balanced _ hspan := h.openings_within_eq hordered hpos hspan
  existsUnique _ htag hclosing := h.existsUnique_of_closing hordered hpos htag hclosing
  nested := (h.pairwise hordered hpos).imp fun hpair => hpair.2.imp_right fun hlt => ⟨hpair.1, hlt⟩

end RowForest

/-! ## The rows of a text -/

/-- **How the rows of a text lie.**  There are no spans exactly when some closing row tag has no
open one before it or some row tag stays open at the end.  Otherwise there is one span for each
opening tag, in the order of their starts.  Each begins at its opening tag and stops, further on,
behind a closing tag, with as many opening tags inside as closing ones; every closing tag ends one
span; and of two spans one stands behind the other or inside of it. -/
theorem rowSpans_layout (text : List Char) :
    (rowSpans text = none ↔
      RowTag.ClosesNothing (RowTag.all text) ∨ RowTag.StaysOpen (RowTag.all text)) ∧
    ∀ spans, rowSpans text = some spans → RowLayout (RowTag.all text) spans := by
  have hscans := RowTag.scans_scan 0 text
  refine ⟨matchTags_eq_none_iff, fun spans h => ?_⟩
  exact (rowForest_of_rowSpans h).layout (RowTag.pairwise_scan hscans)
    fun tag htag => (RowTag.scan_bounds hscans tag htag).2.1

/-- A row inside a row, in capitals and with an attribute: the closing tags end the inner row first.
-/
theorem rowSpans_layout_of_nested_rows :
    rowSpans "<tr a><TR></tr></tr>".toList = some [⟨0, 20⟩, ⟨6, 15⟩] ∧
      ∃! span, span ∈ [(⟨0, 20⟩ : Span), ⟨6, 15⟩] ∧ span.stop = 15 := by
  have hspans : rowSpans "<tr a><TR></tr></tr>".toList = some [⟨0, 20⟩, ⟨6, 15⟩] := by
    decide +kernel
  have hlayout := (rowSpans_layout "<tr a><TR></tr></tr>".toList).2 _ hspans
  exact ⟨hspans, hlayout.existsUnique ⟨false, 10, 15⟩ (by decide +kernel) rfl⟩

end TagTemplates
