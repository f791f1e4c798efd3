import TagTemplates.Proofs.Table.RowRuns
import TagTemplates.Proofs.Text.Basic

/-!
# What a table loop puts into a text

A loop puts its opening tag in front of a run of complete rows and its closing tag behind it.  The
run is cut out of the text by the spans of its first and its last row, whatever the rows of the
document are; rows inside of its rows are passed over.

* `IsRow`, `RowRun`: a complete row, and rows with white space between them.
* `isRow_slice`, `rowRun_slice`: what a span and what a run of spans cuts out of a text.
* `RowRun.balanced`: the row tags of a run are balanced.
* `TableLoop.Wraps`, `wrapRows_eq_ok`: what a loop puts into a text.
* `TableLoop.unwrap?`, `unwrapAll?`: taking the tags of loops out of a text again.
* `loops_put_pairs_around_runs`: loops only put pairs of tags around runs of rows.
-/

namespace TagTemplates

open Relation

variable {text row gap more run out cs : List Char} {rows : List Row} {spans : List Span}
  {span : Span} {a b c : Nat}

/-! ## Slices -/

theorem take_append_slice (text : List Char) (h : a ≤ b) :
    text.take a ++ slice text a b = text.take b := by
  rw [slice, ← Nat.min_eq_left h, ← List.take_take, Nat.min_eq_left h, List.take_append_drop]

/-- A text is what stands before a slice, the slice, and what stands behind it. -/
theorem take_append_slice_append_drop (text : List Char) (h : a ≤ b) :
    text.take a ++ slice text a b ++ text.drop b = text := by
  rw [take_append_slice text h, List.take_append_drop]

theorem slice_append_slice (text : List Char) (hab : a ≤ b) (hbc : b ≤ c) :
    slice text a b ++ slice text b c = slice text a c := by
  refine List.append_right_injective (text.take a) ?_
  show text.take a ++ (slice text a b ++ slice text b c) = text.take a ++ slice text a c
  rw [← List.append_assoc, take_append_slice text hab, take_append_slice text hbc,
    take_append_slice text (Nat.le_trans hab hbc)]

namespace RowTag

variable {tags before mid after inner : List RowTag} {opening closing : RowTag} {k : Nat}

/-- **The tags of a slice**, when it is known which tags of the text stand in it. -/
theorem map_shift_all_slice (hab : a ≤ b) (hb : b ≤ text.length)
    (htags : all text = before ++ mid ++ after) (hbefore : ∀ tag ∈ before, tag.stop ≤ a)
    (hmid : ∀ tag ∈ mid, a ≤ tag.start ∧ tag.stop ≤ b) (hafter : ∀ tag ∈ after, b ≤ tag.start) :
    (all (slice text a b)).map (shift a) = mid := by
  have hpos : ∀ tag ∈ before ++ mid ++ after, tag.start < tag.stop := by
    rw [← htags]
    exact fun tag htag => (scan_bounds (scans_scan 0 text) tag htag).2.1
  have htake : (text.take a).length = a := List.length_take_of_le (Nat.le_trans hab hb)
  have hstop : a + (slice text a b).length = b := by
    rw [slice, List.length_drop, List.length_take, Nat.min_eq_left hb]
    omega
  have hshift := map_shift_all (text.take a) (slice text a b) (text.drop b)
  rw [take_append_slice_append_drop text hab, htake, hstop, htags] at hshift
  rw [hshift fun tag htag => ?_, List.filter_append, List.filter_append,
    List.filter_eq_nil_iff.mpr fun tag htag => ?_, List.filter_eq_self.mpr fun tag htag => ?_,
    List.filter_eq_nil_iff.mpr fun tag htag => ?_, List.nil_append, List.append_nil]
  · have hle := hafter tag htag
    have hlt := hpos tag (List.mem_append_right _ htag)
    simp only [decide_eq_true_eq]
    omega
  · exact decide_eq_true (hmid tag htag)
  · have hle := hbefore tag htag
    have hlt := hpos tag (List.mem_append_left _ (List.mem_append_left _ htag))
    simp only [decide_eq_true_eq]
    omega
  · rcases List.mem_append.mp htag with hmem | hmem
    · rcases List.mem_append.mp hmem with hmem | hmem
      · exact Or.inl (hbefore tag hmem)
      · exact Or.inr (hmid tag hmem).1
    · exact Or.inr (Nat.le_trans hab (hafter tag hmem))

/-- The tags of a row stand between where it begins and where it ends. -/
theorem bounds_of_mem_row (hordered : (opening :: inner ++ [closing]).Pairwise
      fun tag next => tag.stop ≤ next.start)
    (hpos : ∀ tag ∈ opening :: inner ++ [closing], tag.start < tag.stop) :
    ∀ tag ∈ opening :: inner ++ [closing], opening.start ≤ tag.start ∧ tag.stop ≤ closing.stop := by
  obtain ⟨hopened, -, hclosed⟩ := List.pairwise_append.mp hordered
  have hopening := hpos opening (by simp)
  have hclosing := hpos closing (by simp)
  have hfirst := hclosed opening List.mem_cons_self closing List.mem_cons_self
  intro tag htag
  rcases List.mem_append.mp htag with hmem | hmem
  · have hle := hclosed tag hmem closing List.mem_cons_self
    rcases List.mem_cons.mp hmem with rfl | hmem
    · omega
    · have hge := (List.pairwise_cons.mp hopened).1 tag hmem
      omega
  · obtain rfl := List.mem_singleton.mp hmem
    omega

end RowTag

/-! ## Complete rows -/

/-- A complete row: it begins with an opening row tag and ends with a closing one, and what is
opened between the two is closed between them. -/
def IsRow (cs : List Char) : Prop :=
  ∃ opening inner closing, RowTag.all cs = opening :: inner ++ [closing] ∧
    opening.isOpening = true ∧ closing.isOpening = false ∧ RowTag.Balanced inner ∧
    opening.start = 0 ∧ closing.stop = cs.length

/-- One or more complete rows with nothing but white space between them. -/
inductive RowRun : List Char → Prop where
  | single {row : List Char} : IsRow row → RowRun row
  | cons {row gap more : List Char} : IsRow row → (∀ c ∈ gap, Text.isSpace c = true) →
      RowRun more → RowRun (row ++ gap ++ more)

/-- It does not matter where the row stands in a text. -/
theorem isRow_of_map_shift {opening closing : RowTag} {inner : List RowTag}
    (htags : (RowTag.all cs).map (RowTag.shift opening.start) = opening :: inner ++ [closing])
    (hopening : opening.isOpening = true) (hclosing : closing.isOpening = false)
    (hinner : RowTag.Balanced inner) (hstop : closing.stop = opening.start + cs.length) :
    IsRow cs := by
  obtain ⟨front, last, hall, hfront, hlast⟩ := List.map_eq_append_iff.mp htags
  obtain ⟨first, between, rfl, hfirst, rfl⟩ := List.map_eq_cons_iff.mp hfront
  obtain ⟨final, rfl, rfl⟩ := List.map_eq_singleton_iff.mp hlast
  have hfirstopening : first.isOpening = opening.isOpening := congrArg (·.isOpening) hfirst
  have hfirststart : first.start + opening.start = opening.start := congrArg (·.start) hfirst
  have hfinalstop : final.stop + opening.start = opening.start + cs.length := hstop
  exact ⟨first, between, final, hall, hfirstopening.trans hopening, hclosing,
    (RowTag.balanced_map_shift_iff _).mp hinner, by omega, by omega⟩

/-- **A span cuts a complete row out of a text.** -/
theorem isRow_slice (h : rowSpans text = some spans) (hspan : span ∈ spans) :
    span.start < span.stop ∧ span.stop ≤ text.length ∧ IsRow (slice text span.start span.stop) := by
  have hlt := start_lt_stop_of_rowSpans h span hspan
  obtain ⟨before, opening, inner, closing, after, htags, hopening, hclosing, hinner, rfl⟩ :=
    (rowForest_of_rowSpans h).exists_of_mem hspan
  have hbounds := RowTag.scan_bounds (RowTag.scans_scan 0 text)
  have hordered := RowTag.pairwise_scan (RowTag.scans_scan 0 text)
  rw [← RowTag.all, htags] at hbounds hordered
  obtain ⟨hfront, -, hbehind⟩ := List.pairwise_append.mp hordered
  obtain ⟨-, hrow, hbefore⟩ := List.pairwise_append.mp hfront
  have hstop : closing.stop ≤ text.length := by
    have hle := (hbounds closing (by simp)).2.2
    omega
  have hmid := RowTag.map_shift_all_slice (Nat.le_of_lt hlt) hstop htags
    (fun tag htag => hbefore tag htag opening (by simp))
    (RowTag.bounds_of_mem_row hrow fun tag htag =>
      (hbounds tag (List.mem_append_left _ (List.mem_append_right _ htag))).2.1)
    (fun tag htag => hbehind closing (by simp) tag htag)
  refine ⟨hlt, hstop, isRow_of_map_shift hmid hopening hclosing hinner ?_⟩
  simp only at hlt ⊢
  rw [slice, List.length_drop, List.length_take, Nat.min_eq_left hstop]
  omega

/-! ## Runs of rows -/

theorem isSpace_of_trim_eq_nil (h : (Text.trim gap).isEmpty = true) :
    ∀ c ∈ gap, Text.isSpace c = true := by
  obtain ⟨before, after, hgap, hbefore, hafter⟩ := Text.exists_trim_append gap
  rw [List.isEmpty_iff.mp h, List.nil_append] at hgap
  rw [hgap]
  exact List.forall_mem_append.mpr ⟨hbefore, hafter⟩

/-- **What stands between the beginning of a row and the end of one that it is joined to is a run of
rows.** -/
theorem rowRun_slice (h : rowSpans text = some spans) {first last : Nat} {lastSpan : Span}
    (hreaches : ReflTransGen (Joins text rows spans) first last)
    (hlast : spans[last]? = some lastSpan) : ∀ firstSpan, spans[first]? = some firstSpan →
      firstSpan.start < lastSpan.stop ∧ RowRun (slice text firstSpan.start lastSpan.stop) := by
  induction hreaches using ReflTransGen.head_induction_on with
  | refl =>
    intro firstSpan hfirst
    obtain rfl := Option.some.inj (hfirst.symm.trans hlast)
    obtain ⟨hlt, -, hrow⟩ := isRow_slice h (List.mem_of_getElem? hfirst)
    exact ⟨hlt, .single hrow⟩
  | head hjoins _ ih =>
    intro firstSpan hfirst
    obtain ⟨-, span, -, nextSpan, -, hspan, -, -, -, hnext, hle, hgap, -⟩ := hjoins
    obtain rfl := Option.some.inj (hfirst.symm.trans hspan)
    obtain ⟨hlt, -, hrow⟩ := isRow_slice h (List.mem_of_getElem? hfirst)
    obtain ⟨hnextlt, hmore⟩ := ih nextSpan hnext
    have hrun := RowRun.cons hrow (isSpace_of_trim_eq_nil hgap) hmore
    rw [slice_append_slice text (Nat.le_of_lt hlt) hle,
      slice_append_slice text (by omega) (Nat.le_of_lt hnextlt)] at hrun
    exact ⟨by omega, hrun⟩

/-- The tags of a row and those of what follows it. -/
theorem IsRow.all_append (h : IsRow row) (rest : List Char) : RowTag.all (row ++ rest) =
    RowTag.all row ++ (RowTag.all rest).map (RowTag.shift row.length) := by
  obtain ⟨opening, inner, closing, htags, -, -, -, -, hstop⟩ := h
  obtain ⟨others, hothers, -⟩ := RowTag.exists_scan_append 0 row rest
  rw [← RowTag.all, ← RowTag.all, htags] at hothers
  have hordered := RowTag.pairwise_scan (RowTag.scans_scan 0 (row ++ rest))
  rw [← RowTag.all, hothers] at hordered
  have hbounds := RowTag.scan_bounds (RowTag.scans_scan 0 row)
  rw [← RowTag.all, htags] at hbounds
  -- No tag is cut where the row ends, since a tag ends there.
  have hscan : RowTag.scan 0 0 (row ++ rest) =
      RowTag.scan 0 0 row ++ RowTag.scan (0 + row.length) 0 rest := by
    refine RowTag.scan_append fun tag htag => ?_
    rw [← RowTag.all, hothers] at htag
    rcases List.mem_append.mp htag with hmem | hmem
    · exact Or.inl (hbounds tag hmem).2.2
    · have hle := (List.pairwise_append.mp hordered).2.2 closing (by simp) tag hmem
      exact Or.inr (by omega)
  rwa [RowTag.scan_add] at hscan

/-- No tag begins in white space. -/
theorem scan_gap_append (h : ∀ c ∈ gap, Text.isSpace c = true) (place : Nat) :
    RowTag.scan place 0 (gap ++ more) = RowTag.scan (place + gap.length) 0 more := by
  induction gap generalizing place with
  | nil => rfl
  | cons c gap ih =>
    obtain ⟨hc, hgap⟩ := List.forall_mem_cons.mp h
    rw [List.cons_append, RowTag.scan_cons, ih hgap, List.length_cons, Nat.add_right_comm,
      Nat.add_assoc]
    rintro isOpening - after ⟨-, -, -, -⟩ heq
    cases isOpening <;> obtain ⟨rfl, -⟩ := List.cons.inj heq <;> exact absurd hc (by decide)

theorem IsRow.balanced (h : IsRow row) : RowTag.Balanced (RowTag.all row) := by
  obtain ⟨opening, inner, closing, htags, hopening, hclosing, hinner, -, -⟩ := h
  rw [htags]
  exact hinner.row hopening hclosing

/-- **The row tags of a run are balanced.** -/
theorem RowRun.balanced (h : RowRun run) : RowTag.Balanced (RowTag.all run) := by
  induction h with
  | single hrow => exact hrow.balanced
  | @cons row gap more hrow hgap _ ih =>
    have hrest : RowTag.all (gap ++ more) = (RowTag.all more).map (RowTag.shift gap.length) := by
      rw [RowTag.all, scan_gap_append hgap, RowTag.scan_add, ← RowTag.all]
    rw [List.append_assoc, hrow.all_append, hrest]
    exact hrow.balanced.append
      ((RowTag.balanced_map_shift_iff _).mpr ((RowTag.balanced_map_shift_iff _).mpr ih))

/-- No beginning of a run closes more rows than it opens. -/
theorem RowRun.closings_le_openings {front : List Char} (h : RowRun run) (hfront : front <+: run) :
    RowTag.closings (RowTag.all front) ≤ RowTag.openings (RowTag.all front) := by
  obtain ⟨rest, rfl⟩ := hfront
  obtain ⟨others, hothers, -⟩ := RowTag.exists_scan_append 0 front rest
  exact h.balanced.sane _ ⟨others, hothers.symm⟩

theorem RowRun.ne_nil (h : RowRun run) : run ≠ [] := by
  rintro rfl
  have hrow : ∀ row, IsRow row → row ≠ [] := by
    rintro _ ⟨opening, inner, closing, htags, -⟩ rfl
    exact absurd htags (by simp [RowTag.all, RowTag.scan])
  generalize hnil : ([] : List Char) = cs at h
  cases h with
  | single h => exact hrow _ h hnil.symm
  | cons h _ _ =>
    have happend := List.append_eq_nil_iff.mp (List.append_eq_nil_iff.mp hnil.symm).1
    exact hrow _ h happend.1

/-! ## One loop -/

/-- The text that a loop makes of a text: the same text, or the text with the tags of the loop
around a run of rows.  The places are where the two tags stand in the result. -/
inductive TableLoop.Wraps (loop : TableLoop) :
    List Char → Option (Nat × Nat) → List Char → Prop where
  | unchanged (text : List Char) : Wraps loop text none text
  | around {before run after : List Char} : RowRun run →
      Wraps loop (before ++ run ++ after)
        (some (before.length, (before ++ loop.openingTag ++ run).length))
        (before ++ loop.openingTag ++ run ++ closingTag ++ after)

/-- **What a loop puts into a text**, whatever the rows of the document are. -/
theorem wrapRows_eq_ok {loop : TableLoop} (h : wrapRows loop rows text = .ok out) :
    ∃ place, loop.Wraps text place out := by
  rw [wrapRows] at h
  split at h
  · rename_i first spans hfirst hspans
    split at h
    · split at h
      · exact absurd h (by simp)
      · rename_i last hrun
        split at h
        · rename_i firstSpan lastSpan hfirstSpan hlastSpan
          obtain ⟨hlt, hrow⟩ :=
            rowRun_slice hspans (lastOfRun_eq_ok hrun) hlastSpan firstSpan hfirstSpan
          have hwraps : ∃ place, loop.Wraps (text.take firstSpan.start ++
              slice text firstSpan.start lastSpan.stop ++ text.drop lastSpan.stop) place
              (text.take firstSpan.start ++ loop.openingTag ++
                slice text firstSpan.start lastSpan.stop ++ TableLoop.closingTag ++
                text.drop lastSpan.stop) := ⟨_, .around hrow⟩
          rwa [take_append_slice_append_drop text (Nat.le_of_lt hlt), Except.ok.inj h] at hwraps
        · obtain rfl : text = out := Except.ok.inj h
          exact ⟨none, .unchanged text⟩
    · obtain rfl : text = out := Except.ok.inj h
      exact ⟨none, .unchanged text⟩
  · obtain rfl : text = out := Except.ok.inj h
    exact ⟨none, .unchanged text⟩

/-! ## Taking tags out again -/

/-- Take a piece out of a text, at a place where it stands. -/
def takeOut? (piece : List Char) (place : Nat) (text : List Char) : Option (List Char) :=
  if piece.isPrefixOf (text.drop place) then
    some (text.take place ++ text.drop (place + piece.length))
  else none

/-- Take the tags of a loop out of a text, given where they stand: first the closing tag, then the
opening one. -/
def TableLoop.unwrap? (loop : TableLoop) : Option (Nat × Nat) → List Char → Option (List Char)
  | none, text => some text
  | some (front, back), text => takeOut? closingTag back text >>= takeOut? loop.openingTag front

/-- Take the tags of loops out of a text, those of the last loop first. -/
def unwrapAll? : List (TableLoop × Option (Nat × Nat)) → List Char → Option (List Char)
  | [], text => some text
  | (loop, place) :: rest, text => unwrapAll? rest text >>= loop.unwrap? place

theorem takeOut?_append (before piece after : List Char) :
    takeOut? piece before.length (before ++ piece ++ after) = some (before ++ after) := by
  have hdrop : (before ++ piece ++ after).drop before.length = piece ++ after := by
    rw [List.append_assoc, List.drop_left]
  rw [takeOut?, hdrop, if_pos (List.isPrefixOf_iff_prefix.mpr (List.prefix_append _ _)),
    ← List.length_append, List.drop_left, List.append_assoc, List.take_left]

/-- What a loop puts into a text can be taken out again. -/
theorem TableLoop.Wraps.unwrap? {loop : TableLoop} {place : Option (Nat × Nat)}
    (h : loop.Wraps text place out) : loop.unwrap? place out = some text := by
  cases h with
  | unchanged => rfl
  | @around before run after _ =>
    have hback := takeOut?_append (before ++ loop.openingTag ++ run) closingTag after
    have hfront := takeOut?_append before loop.openingTag (run ++ after)
    rw [TableLoop.unwrap?, hback, Option.bind_eq_bind, Option.bind_some, List.append_assoc, hfront,
      List.append_assoc]

/-- Loops put their tags into a text one after another. -/
inductive WrapsAll :
    List TableLoop → List Char → List (Option (Nat × Nat)) → List Char → Prop where
  | nil (text : List Char) : WrapsAll [] text [] text
  | cons {loop : TableLoop} {loops : List TableLoop} {text mid out : List Char}
      {place : Option (Nat × Nat)} {places : List (Option (Nat × Nat))} :
      loop.Wraps text place mid → WrapsAll loops mid places out →
      WrapsAll (loop :: loops) text (place :: places) out

theorem exists_wrapsAll {loops : List TableLoop} (h : loopRows loops text = .ok out) :
    ∃ places, WrapsAll loops text places out := by
  induction loops generalizing text with
  | nil =>
    obtain rfl : text = out := Except.ok.inj h
    exact ⟨[], .nil text⟩
  | cons loop loops ih =>
    have hcons : loopRows (loop :: loops) text = loopText loop text >>= loopRows loops := rfl
    obtain ⟨mid, hmid, hrest⟩ := bind_eq_ok_iff.mp (hcons ▸ h)
    obtain ⟨place, hplace⟩ := wrapRows_eq_ok hmid
    obtain ⟨places, hplaces⟩ := ih hrest
    exact ⟨place :: places, .cons hplace hplaces⟩

theorem WrapsAll.unwrapAll? {loops : List TableLoop} {places : List (Option (Nat × Nat))}
    (h : WrapsAll loops text places out) : unwrapAll? (loops.zip places) out = some text := by
  induction h with
  | nil => rfl
  | cons hwraps _ ih =>
    rw [List.zip_cons_cons, TagTemplates.unwrapAll?, ih, Option.bind_eq_bind, Option.bind_some,
      hwraps.unwrap?]

/-- **Loops only put pairs of tags around runs of rows.**  A loop leaves a text as it is, whatever
the rows of the document are, or puts its opening tag in front of a run of complete rows and its
closing tag behind it; and when the tags of loops are taken out again, the last ones first, the text
is as it was. -/
theorem loops_put_pairs_around_runs :
    (∀ (loop : TableLoop) (rows : List Row) (text out : List Char),
      wrapRows loop rows text = .ok out → out = text ∨ ∃ before run after,
        text = before ++ run ++ after ∧
        out = before ++ loop.openingTag ++ run ++ TableLoop.closingTag ++ after ∧
        RowRun run ∧ run ≠ [] ∧
        (∀ front, front <+: run →
          RowTag.closings (RowTag.all front) ≤ RowTag.openings (RowTag.all front)) ∧
        RowTag.closings (RowTag.all run) = RowTag.openings (RowTag.all run)) ∧
    ∀ (loops : List TableLoop) (text out : List Char), loopRows loops text = .ok out →
      ∃ places, WrapsAll loops text places out ∧ unwrapAll? (loops.zip places) out = some text := by
  constructor
  · intro loop rows text out h
    obtain ⟨-, ⟨⟩ | ⟨hrun⟩⟩ := wrapRows_eq_ok h
    · exact Or.inl rfl
    · exact Or.inr ⟨_, _, _, rfl, rfl, hrun, hrun.ne_nil, fun _ => hrun.closings_le_openings,
        hrun.balanced.settled⟩
  · intro loops text out h
    obtain ⟨places, hplaces⟩ := exists_wrapsAll h
    exact ⟨places, hplaces, hplaces.unwrapAll?⟩

/-- A single row is looped, and its loop is undone. -/
theorem exists_pair_around_row : ∃ out,
    wrapRows ⟨.literal ['m'], "x", "xs"⟩ [⟨true, 0, false⟩]
      "<table><tr><td>m</td></tr></table>".toList = .ok out ∧
    (∃ before run after, "<table><tr><td>m</td></tr></table>".toList = before ++ run ++ after ∧
      RowRun run ∧ RowTag.closings (RowTag.all run) = RowTag.openings (RowTag.all run)) ∧
    loopRows [⟨.literal ['m'], "x", "xs"⟩] "<table><tr><td>m</td></tr></table>".toList = .ok out ∧
    ∃ places, unwrapAll? ([⟨.literal ['m'], "x", "xs"⟩].zip places) out =
      some "<table><tr><td>m</td></tr></table>".toList := by
  have hwrap : wrapRows ⟨.literal ['m'], "x", "xs"⟩ [⟨true, 0, false⟩]
      "<table><tr><td>m</td></tr></table>".toList = .ok
      "<table>\x7b% for x in xs %\x7d<tr><td>m</td></tr>\x7b% endfor %\x7d</table>".toList := by
    decide +kernel
  have hloop : loopRows [⟨.literal ['m'], "x", "xs"⟩]
      "<table><tr><td>m</td></tr></table>".toList = .ok
      "<table>\x7b% for x in xs %\x7d<tr><td>m</td></tr>\x7b% endfor %\x7d</table>".toList := by
    decide +kernel
  obtain ⟨before, run, after, htext, -, hrun, -, -, hsettled⟩ :=
    (loops_put_pairs_around_runs.1 _ _ _ _ hwrap).resolve_left (by decide +kernel)
  obtain ⟨places, -, hplaces⟩ := loops_put_pairs_around_runs.2 _ _ _ hloop
  exact ⟨_, hwrap, ⟨before, run, after, htext, hrun, hsettled⟩, hloop, places, hplaces⟩

end TagTemplates
