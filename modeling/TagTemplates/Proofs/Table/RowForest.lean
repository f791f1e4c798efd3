import TagTemplates.Proofs.Table.RowTags

/-!
# The spans of rows

A stack matches every closing row tag with the latest opening one.  It comes to an end with nothing
open exactly when the tags are those of a forest of rows, and the spans are then those of its rows.

* `RowForest`: row tags that match up, with the spans of the rows.
* `matchTags_eq_some_iff`: the stack finds the forest, if there is one.
* `RowTag.Balanced`, `RowForest.balanced`: no prefix of the tags closes more rows than it opens.
* `RowForest.exists_of_mem`: the tags of a single row.
* `RowForest.pairwise`: of two rows the later one stands behind the other or inside of it.
-/

namespace TagTemplates

/-- Row tags that match up, with the spans of the rows in the order of their opening tags. -/
inductive RowForest : List RowTag → List Span → Prop where
  | nil : RowForest [] []
  | row {opening closing : RowTag} {inner rest : List RowTag} {within behind : List Span} :
      opening.isOpening = true → closing.isOpening = false → RowForest inner within →
      RowForest rest behind →
      RowForest (opening :: inner ++ closing :: rest)
        (⟨opening.start, closing.stop⟩ :: (within ++ behind))

/-- Row tags of which some opening one is never closed: what follows it is a forest, or has another
such tag. -/
inductive Unclosed : List RowTag → Prop where
  | last {opening : RowTag} {rest : List RowTag} {behind : List Span} :
      opening.isOpening = true → RowForest rest behind → Unclosed (opening :: rest)
  | outer {opening : RowTag} {rest : List RowTag} : opening.isOpening = true → Unclosed rest →
      Unclosed (opening :: rest)
  | behind {before rest : List RowTag} {spans : List Span} : RowForest before spans →
      Unclosed rest → Unclosed (before ++ rest)

namespace RowForest

variable {tags before : List RowTag} {spans : List Span}

theorem append {more : List RowTag} {others : List Span} (h : RowForest tags spans)
    (hmore : RowForest more others) : RowForest (tags ++ more) (spans ++ others) := by
  induction h with
  | nil => exact hmore
  | row hopening hclosing hinner _ _ ih =>
    have hrow := RowForest.row hopening hclosing hinner ih
    simpa only [List.cons_append, List.append_assoc] using hrow

/-- A single row. -/
theorem single {opening closing : RowTag} {inner : List RowTag} {within : List Span}
    (hopening : opening.isOpening = true) (hclosing : closing.isOpening = false)
    (h : RowForest inner within) :
    RowForest (opening :: inner ++ [closing]) (⟨opening.start, closing.stop⟩ :: within) := by
  have hrow := RowForest.row hopening hclosing h .nil
  rwa [List.append_nil] at hrow

/-- Tags match up, or a closing tag comes too early, or an opening one is never closed. -/
theorem exists_or_unclosed (tags : List RowTag) : (∃ spans, RowForest tags spans) ∨
    (∃ before spans closing rest, RowForest before spans ∧ closing.isOpening = false ∧
      tags = before ++ closing :: rest) ∨ Unclosed tags := by
  induction hn : tags.length using Nat.strongRecOn generalizing tags with
  | _ n ih =>
    subst hn
    cases tags with
    | nil => exact Or.inl ⟨[], .nil⟩
    | cons tag rest =>
      cases htag : tag.isOpening with
      | false => exact Or.inr (Or.inl ⟨[], [], tag, rest, .nil, htag, rfl⟩)
      | true =>
        rcases ih _ (Nat.lt_succ_self _) rest rfl with ⟨spans, hrest⟩ |
          ⟨inner, within, closing, behind, hinner, hclosing, rfl⟩ | hrest
        · exact Or.inr (Or.inr (.last htag hrest))
        · -- The tag is closed, and what follows is treated in the same way.
          have hlength : behind.length < (tag :: (inner ++ closing :: behind)).length := by
            simp only [List.length_cons, List.length_append]
            omega
          have hsplit : tag :: (inner ++ closing :: behind) =
              (tag :: inner ++ [closing]) ++ behind := by simp
          have hrow := RowForest.single htag hclosing hinner
          rcases ih _ hlength behind rfl with ⟨spans, hbehind⟩ |
            ⟨before, spans, early, rest, hbefore, hearly, rfl⟩ | hbehind
          · exact Or.inl ⟨_, .row htag hclosing hinner hbehind⟩
          · refine Or.inr (Or.inl ⟨_, _, early, rest, hrow.append hbefore, hearly, ?_⟩)
            simp
          · exact Or.inr (Or.inr (hsplit ▸ .behind hrow hbehind))
        · exact Or.inr (Or.inr (.outer htag hrest))

end RowForest

/-! ## The stack -/

/-- The span that is open at a place of a list is closed. -/
theorem closeSpan_append (before after : List Span) (span : Span) (stop : Nat) :
    closeSpan before.length stop (before ++ span :: after) =
      before ++ ⟨span.start, stop⟩ :: after := by
  induction before with
  | nil => rfl
  | cons other before ih =>
    rw [closeSpan] at ih ⊢
    rw [List.cons_append, List.length_cons, List.modify_succ_cons, ih, List.cons_append]

theorem matchTags_opening {tag : RowTag} (h : tag.isOpening = true) (found : List Span)
    (openRows : List Nat) (rest : List RowTag) : matchTags found openRows (tag :: rest) =
      matchTags (found ++ [⟨tag.start, tag.start⟩]) (found.length :: openRows) rest := by
  cases openRows <;> rw [matchTags, if_pos h]

theorem matchTags_closing {tag : RowTag} (h : tag.isOpening = false) (found : List Span) (row : Nat)
    (openRows : List Nat) (rest : List RowTag) : matchTags found (row :: openRows) (tag :: rest) =
      matchTags (closeSpan row tag.stop found) openRows rest := by
  rw [matchTags, if_neg (by simp [h])]

/-- A closing tag with nothing open is noticed at once. -/
theorem matchTags_closing_nil {tag : RowTag} (h : tag.isOpening = false) (found : List Span)
    (rest : List RowTag) : matchTags found [] (tag :: rest) = none := by
  rw [matchTags, if_neg (by simp [h])]

/-- **The stack passes over a forest**, and notes its spans. -/
theorem RowForest.matchTags_append {tags : List RowTag} {spans : List Span}
    (h : RowForest tags spans) (found : List Span) (openRows : List Nat) (more : List RowTag) :
    matchTags found openRows (tags ++ more) = matchTags (found ++ spans) openRows more := by
  induction h generalizing found openRows more with
  | nil => rw [List.nil_append, List.append_nil]
  | @row opening closing inner rest within behind hopening hclosing _ _ ihinner ihrest =>
    simp only [List.cons_append, List.append_assoc]
    rw [matchTags_opening hopening, ihinner, matchTags_closing hclosing, List.append_assoc,
      List.singleton_append, closeSpan_append, ihrest, List.append_assoc]
    rfl

/-- A row that stays open is noticed at the end. -/
theorem Unclosed.matchTags_eq_none {tags : List RowTag} (h : Unclosed tags) (found : List Span)
    (openRows : List Nat) : matchTags found openRows tags = none := by
  induction h generalizing found openRows with
  | @last opening rest behind hopening hrest =>
    rw [matchTags_opening hopening, ← List.append_nil rest, hrest.matchTags_append]
    rfl
  | outer hopening _ ih => rw [matchTags_opening hopening, ih]
  | behind hbefore _ ih => rw [hbefore.matchTags_append, ih]

/-- **The stack finds the forest**, if there is one. -/
theorem matchTags_eq_some_iff {tags : List RowTag} {spans : List Span} :
    matchTags [] [] tags = some spans ↔ RowForest tags spans := by
  have hforest : ∀ {others}, RowForest tags others → matchTags [] [] tags = some others := by
    intro others hothers
    rw [← List.append_nil tags, hothers.matchTags_append]
    rfl
  constructor
  · intro h
    rcases RowForest.exists_or_unclosed tags with ⟨others, hothers⟩ |
      ⟨before, others, closing, rest, hbefore, hclosing, rfl⟩ | hunclosed
    · obtain rfl := Option.some.inj ((hforest hothers).symm.trans h)
      exact hothers
    · rw [hbefore.matchTags_append, matchTags_closing_nil hclosing] at h
      exact absurd h (by simp)
    · rw [hunclosed.matchTags_eq_none] at h
      exact absurd h (by simp)
  · exact hforest

/-! ## Balance -/

namespace RowTag

/-- How many rows are opened. -/
def openings (tags : List RowTag) : Nat := tags.countP (·.isOpening)

/-- How many rows are closed. -/
def closings (tags : List RowTag) : Nat := tags.countP (!·.isOpening)

/-- As many rows are closed as are opened, and never more up to some tag. -/
structure Balanced (tags : List RowTag) : Prop where
  sane : ∀ front, front <+: tags → closings front ≤ openings front
  settled : closings tags = openings tags

variable {tags more : List RowTag} {opening closing : RowTag}

@[simp] theorem openings_append (tags more : List RowTag) :
    openings (tags ++ more) = openings tags + openings more := List.countP_append

@[simp] theorem closings_append (tags more : List RowTag) :
    closings (tags ++ more) = closings tags + closings more := List.countP_append

/-- An opening tag counts once, as an opening. -/
theorem counts_cons_of_opening (h : opening.isOpening = true) (tags : List RowTag) :
    openings (opening :: tags) = openings tags + 1 ∧ closings (opening :: tags) = closings tags := by
  simp [openings, closings, h]

/-- A closing tag counts once, as a closing. -/
theorem counts_cons_of_closing (h : closing.isOpening = false) (tags : List RowTag) :
    openings (closing :: tags) = openings tags ∧ closings (closing :: tags) = closings tags + 1 := by
  simp [openings, closings, h]

theorem balanced_nil : Balanced [] := by
  refine ⟨fun front hfront => ?_, rfl⟩
  rw [List.prefix_nil.mp hfront]
  exact Nat.le_refl _

theorem Balanced.append (h : Balanced tags) (hmore : Balanced more) : Balanced (tags ++ more) := by
  refine ⟨fun front hfront => ?_, ?_⟩
  · rcases List.prefix_or_prefix_of_prefix hfront (List.prefix_append tags more) with
      hfront | ⟨rest, rfl⟩
    · exact h.sane front hfront
    · have hle := hmore.sane rest ((List.prefix_append_right_inj tags).mp hfront)
      have hsettled := h.settled
      rw [openings_append, closings_append]
      omega
  · rw [openings_append, closings_append, h.settled, hmore.settled]

/-- What a row opens it closes. -/
theorem Balanced.row (hopening : opening.isOpening = true) (hclosing : closing.isOpening = false)
    (h : Balanced tags) : Balanced (opening :: tags ++ [closing]) := by
  have hsettled := h.settled
  have hopen := counts_cons_of_opening hopening
  have hclose := counts_cons_of_closing hclosing []
  have hall : openings (opening :: tags ++ [closing]) = openings tags + 1 ∧
      closings (opening :: tags ++ [closing]) = closings tags + 1 := by
    rw [openings_append, closings_append, (hopen tags).1, (hopen tags).2, hclose.1, hclose.2]
    exact ⟨rfl, rfl⟩
  refine ⟨fun front hfront => ?_, by rw [hall.1, hall.2, hsettled]⟩
  rcases List.prefix_concat_iff.mp hfront with rfl | hfront
  · rw [hall.1, hall.2, hsettled]
  · rcases List.prefix_cons_iff.mp hfront with rfl | ⟨rest, rfl, hrest⟩
    · exact Nat.le_refl _
    · have hle := h.sane rest hrest
      rw [(hopen rest).1, (hopen rest).2]
      omega

/-- It does not matter where the tags stand. -/
theorem balanced_map_shift_iff (k : Nat) : Balanced (tags.map (shift k)) ↔ Balanced tags := by
  have hcounts : ∀ tags : List RowTag, openings (tags.map (shift k)) = openings tags ∧
      closings (tags.map (shift k)) = closings tags := by
    intro tags
    simp [openings, closings, List.countP_map, Function.comp_def, shift]
  constructor
  · intro h
    refine ⟨fun front hfront => ?_, ?_⟩
    · rw [← (hcounts front).1, ← (hcounts front).2]
      exact h.sane _ (hfront.map (shift k))
    · rw [← (hcounts tags).1, ← (hcounts tags).2, h.settled]
  · intro h
    refine ⟨fun front hfront => ?_, ?_⟩
    · obtain ⟨rest, hrest, rfl⟩ := List.prefix_map_iff.mp hfront
      rw [(hcounts rest).1, (hcounts rest).2]
      exact h.sane rest hrest
    · rw [(hcounts tags).1, (hcounts tags).2, h.settled]

end RowTag

namespace RowForest

variable {tags : List RowTag} {spans : List Span} {span : Span}

/-- **A forest is balanced.** -/
theorem balanced (h : RowForest tags spans) : RowTag.Balanced tags := by
  induction h with
  | nil => exact RowTag.balanced_nil
  | row hopening hclosing _ _ ihinner ihrest =>
    have hrow := (ihinner.row hopening hclosing).append ihrest
    simpa only [List.append_assoc, List.singleton_append] using hrow

/-- The tags of a row: it is opened and closed, and its tags between are balanced. -/
theorem exists_of_mem (h : RowForest tags spans) (hspan : span ∈ spans) :
    ∃ before opening inner closing after,
      tags = before ++ (opening :: inner ++ [closing]) ++ after ∧ opening.isOpening = true ∧
        closing.isOpening = false ∧ RowTag.Balanced inner ∧
        span = ⟨opening.start, closing.stop⟩ := by
  induction h with
  | nil => exact absurd hspan List.not_mem_nil
  | @row first last inner rest within behind hopening hclosing hinner _ ihinner ihrest =>
    rcases List.mem_cons.mp hspan with rfl | hspan
    · exact ⟨[], first, inner, last, rest, by simp, hopening, hclosing, hinner.balanced, rfl⟩
    · rcases List.mem_append.mp hspan with hspan | hspan
      · obtain ⟨before, opening, within, closing, after, rfl, hrest⟩ := ihinner hspan
        exact ⟨first :: before, opening, within, closing, after ++ last :: rest, by simp, hrest⟩
      · obtain ⟨before, opening, within, closing, after, rfl, hrest⟩ := ihrest hspan
        exact ⟨first :: inner ++ last :: before, opening, within, closing, after, by simp, hrest⟩

/-- A row begins before it ends. -/
theorem start_lt_stop (h : RowForest tags spans)
    (hordered : tags.Pairwise fun tag next => tag.stop ≤ next.start)
    (hpos : ∀ tag ∈ tags, tag.start < tag.stop) (hspan : span ∈ spans) :
    span.start < span.stop := by
  obtain ⟨before, opening, inner, closing, after, rfl, -, -, -, rfl⟩ := h.exists_of_mem hspan
  have hopening := hpos opening (by simp)
  have hclosing := hpos closing (by simp)
  obtain ⟨-, hrow, -⟩ := List.pairwise_append.mp (List.pairwise_append.mp hordered).1
  have hle := (List.pairwise_append.mp hrow).2.2 opening List.mem_cons_self closing (by simp)
  simp only
  omega

/-- **Of two rows the later one begins later, and stands behind the other or inside of it.** -/
theorem pairwise (h : RowForest tags spans)
    (hordered : tags.Pairwise fun tag next => tag.stop ≤ next.start)
    (hpos : ∀ tag ∈ tags, tag.start < tag.stop) :
    spans.Pairwise fun span later =>
      span.start < later.start ∧ (span.stop ≤ later.start ∨ later.stop < span.stop) := by
  induction h with
  | nil => exact .nil
  | @row opening closing inner rest within behind hopening hclosing hinner hrest ihinner ihrest =>
    obtain ⟨hfront, hback, hacross⟩ := List.pairwise_append.mp hordered
    obtain ⟨hclosed, hbehind⟩ := List.pairwise_cons.mp hback
    obtain ⟨hopened, hwithin⟩ := List.pairwise_cons.mp hfront
    obtain ⟨hposfront, hposback⟩ := List.forall_mem_append.mp hpos
    obtain ⟨hposopening, hposinner⟩ := List.forall_mem_cons.mp hposfront
    obtain ⟨hposclosing, hposrest⟩ := List.forall_mem_cons.mp hposback
    have hopeningclosing := hacross opening List.mem_cons_self closing List.mem_cons_self
    -- What is within stands between the two tags, and what is behind stands behind both.
    have hin : ∀ span ∈ within, opening.stop ≤ span.start ∧ span.stop ≤ closing.start := by
      intro span hspan
      obtain ⟨before, first, between, last, after, rfl, -, -, -, rfl⟩ := hinner.exists_of_mem hspan
      exact ⟨hopened first (by simp),
        hacross last (List.mem_cons_of_mem _ (by simp)) closing List.mem_cons_self⟩
    have hout : ∀ span ∈ behind, closing.stop ≤ span.start := by
      intro span hspan
      obtain ⟨before, first, between, last, after, rfl, -, -, -, rfl⟩ := hrest.exists_of_mem hspan
      exact hclosed first (by simp)
    refine List.pairwise_cons.mpr ⟨fun span hspan => ?_, List.pairwise_append.mpr
      ⟨ihinner hwithin hposinner, ihrest hbehind hposrest, fun span hspan later hlater => ?_⟩⟩
    · rcases List.mem_append.mp hspan with hspan | hspan
      · have hbounds := hin span hspan
        simp only
        omega
      · have hbound := hout span hspan
        simp only
        omega
    · have hlt := hinner.start_lt_stop hwithin hposinner hspan
      have hbounds := hin span hspan
      have hbound := hout later hlater
      omega

end RowForest

/-! ## The rows of a text -/

variable {text : List Char} {spans : List Span}

theorem rowForest_of_rowSpans (h : rowSpans text = some spans) :
    RowForest (RowTag.all text) spans := matchTags_eq_some_iff.mp h

theorem start_lt_stop_of_rowSpans (h : rowSpans text = some spans) :
    ∀ span ∈ spans, span.start < span.stop := by
  have hscans := RowTag.scans_scan 0 text
  exact fun span hspan => (rowForest_of_rowSpans h).start_lt_stop (RowTag.pairwise_scan hscans)
    (fun tag htag => (RowTag.scan_bounds hscans tag htag).2.1) hspan

end TagTemplates
