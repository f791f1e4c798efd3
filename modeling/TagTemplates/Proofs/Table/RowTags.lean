import Mathlib.Data.List.Infix
import Mathlib.Data.List.TakeWhile
import TagTemplates.Table.Loop

/-!
# The row tags of a text

A text is scanned for row tags from left to right.  What is found at a place depends on the text of
the tag alone, and so a part of the text that cuts no tag has the tags that stand in it.

* `RowTag.Spells`, `read?_eq_some_iff`: how a row tag is written.
* `RowTag.Scans`: a scan, told tag by tag and character by character.
* `scan_bounds`, `pairwise_scan`: the tags stand in the text, one behind the other.
* `exists_scan_append`: the tags of the beginning of a text begin the tags of the text.
* `scan_append`, `map_shift_all`: the tags of a part of a text.
-/

namespace TagTemplates

namespace RowTag

/-! ## One tag -/

/-- What a tag begins with. -/
def bracket (isOpening : Bool) : List Char := if isOpening then ['<'] else ['<', '/']

/-- How a row tag is written, opening or closing. -/
inductive Spells (isOpening : Bool) : List Char → Prop where
  | mk {t r : Char} {inside : List Char} : t.toLower = 't' → r.toLower = 'r' →
      inside.head?.any Text.isWordChar = false → '>' ∉ inside →
      Spells isOpening (bracket isOpening ++ t :: r :: (inside ++ ['>']))

variable {isOpening : Bool} {written cs pre post more : List Char} {place n k : Nat} {tag : RowTag}

/-- A tag ends at its first closing bracket. -/
theorem Spells.exists_concat (h : Spells isOpening written) :
    ∃ front, written = front ++ ['>'] ∧ '>' ∉ front := by
  obtain ⟨ht, hr, -, hinside⟩ := h
  rename_i t r inside
  refine ⟨bracket isOpening ++ t :: r :: inside, by simp, ?_⟩
  have htne : '>' ≠ t := by
    rintro rfl
    exact absurd ht (by decide)
  have hrne : '>' ≠ r := by
    rintro rfl
    exact absurd hr (by decide)
  have hbracket : '>' ∉ bracket isOpening := by cases isOpening <;> decide
  simp [htne, hrne, hinside, hbracket]

theorem Spells.length_pos (h : Spells isOpening written) : 0 < written.length := by
  obtain ⟨front, rfl, -⟩ := h.exists_concat
  simp

/-- A tag that is cut has no closing bracket. -/
theorem Spells.notMem_of_cut (h : Spells isOpening (pre ++ post)) (hpost : post ≠ []) :
    '>' ∉ pre := by
  intro hmem
  obtain ⟨front, hfront, hnone⟩ := h.exists_concat
  obtain ⟨init, last, hlast⟩ := (List.eq_nil_or_concat post).resolve_left hpost
  rw [hlast, List.concat_eq_append, ← List.append_assoc] at hfront
  rw [← (List.append_singleton_inj.mp hfront).1] at hnone
  exact hnone (List.mem_append_left _ hmem)

theorem tailLength?_eq_some_iff : tailLength? cs = some n ↔ ∃ inside after,
    cs = inside ++ '>' :: after ∧ inside.head?.any Text.isWordChar = false ∧ '>' ∉ inside ∧
      n = inside.length + 1 := by
  have hcut : ∀ {inside after : List Char}, '>' ∉ inside →
      (inside ++ '>' :: after).takeWhile (· != '>') = inside := by
    intro inside after hinside
    rw [List.takeWhile_append_of_pos fun c hc => by simpa using fun h : c = '>' => hinside (h ▸ hc)]
    simp
  have hhead : ∀ inside after : List Char, (inside ++ '>' :: after).head?.any Text.isWordChar =
      inside.head?.any Text.isWordChar := by
    intro inside after
    cases inside with
    | nil =>
      have hword : Text.isWordChar '>' = false := by decide +kernel
      exact hword
    | cons c rest => rfl
  rw [tailLength?]
  constructor
  · intro h
    by_cases hmem : '>' ∈ cs
    · obtain ⟨inside, after, rfl, hinside⟩ := List.eq_append_cons_of_mem hmem
      rw [hhead, hcut hinside] at h
      by_cases hword : inside.head?.any Text.isWordChar = true
      · rw [if_pos hword] at h
        exact absurd h (by simp)
      · rw [if_neg hword, if_pos (by simp)] at h
        exact ⟨inside, after, rfl, by simpa using hword, hinside, (Option.some.inj h).symm⟩
    · have hall : cs.takeWhile (· != '>') = cs :=
        List.takeWhile_eq_self_iff.mpr fun c hc => by
          simpa using fun h : c = '>' => hmem (h ▸ hc)
      rw [hall] at h
      simp at h
  · rintro ⟨inside, after, rfl, hword, hinside, rfl⟩
    rw [hhead, hcut hinside, if_neg (by simp [hword]), if_pos (by simp)]

theorem nameLength?_eq_some_iff : nameLength? cs = some n ↔ ∃ t r inside after,
    cs = t :: r :: (inside ++ '>' :: after) ∧ t.toLower = 't' ∧ r.toLower = 'r' ∧
      inside.head?.any Text.isWordChar = false ∧ '>' ∉ inside ∧ n = inside.length + 3 := by
  constructor
  · intro h
    match cs, h with
    | t :: r :: rest, h =>
      rw [nameLength?] at h
      split at h
      · rename_i hname
        obtain ⟨m, hm, rfl⟩ := Option.map_eq_some_iff.mp h
        obtain ⟨inside, after, rfl, hword, hinside, rfl⟩ := tailLength?_eq_some_iff.mp hm
        simp only [Bool.and_eq_true, beq_iff_eq] at hname
        exact ⟨t, r, inside, after, rfl, hname.1, hname.2, hword, hinside, rfl⟩
      · exact absurd h (by simp)
    | [_], h => exact absurd h (by simp [nameLength?])
    | [], h => exact absurd h (by simp [nameLength?])
  · rintro ⟨t, r, inside, after, rfl, ht, hr, hword, hinside, rfl⟩
    have htail := tailLength?_eq_some_iff.mpr ⟨inside, after, rfl, hword, hinside, rfl⟩
    rw [nameLength?, if_pos (by simp [ht, hr]), htail]
    rfl

/-- Behind its bracket a name of which the length is found makes a tag. -/
theorem exists_spells_of_nameLength? (h : nameLength? cs = some n) (isOpening : Bool) :
    ∃ written after, Spells isOpening written ∧ bracket isOpening ++ cs = written ++ after ∧
      written.length = (bracket isOpening).length + n := by
  obtain ⟨t, r, inside, after, rfl, ht, hr, hword, hinside, rfl⟩ := nameLength?_eq_some_iff.mp h
  exact ⟨_, after, .mk ht hr hword hinside, by simp, by simp⟩

/-- **A tag is read where it is written.** -/
theorem read?_eq_some_iff : read? place cs = some tag ↔ ∃ isOpening written after,
    Spells isOpening written ∧ cs = written ++ after ∧
      tag = ⟨isOpening, place, place + written.length⟩ := by
  constructor
  · intro h
    unfold read? at h
    split at h
    · obtain ⟨m, hm, rfl⟩ := Option.map_eq_some_iff.mp h
      obtain ⟨written, after, hspells, heq, hlength⟩ := exists_spells_of_nameLength? hm false
      exact ⟨false, written, after, hspells, heq, by rw [hlength, ← Nat.add_assoc]; rfl⟩
    · obtain ⟨m, hm, rfl⟩ := Option.map_eq_some_iff.mp h
      obtain ⟨written, after, hspells, heq, hlength⟩ := exists_spells_of_nameLength? hm true
      exact ⟨true, written, after, hspells, heq, by rw [hlength, ← Nat.add_assoc]; rfl⟩
    · exact absurd h (by simp)
  · rintro ⟨isOpening, _, after, ⟨ht, hr, hword, hinside⟩, rfl, rfl⟩
    rename_i t r inside
    have hname : nameLength? (t :: r :: (inside ++ '>' :: after)) = some (inside.length + 3) :=
      nameLength?_eq_some_iff.mpr ⟨t, r, inside, after, rfl, ht, hr, hword, hinside, rfl⟩
    cases isOpening with
    | false =>
      show read? place ('<' :: '/' :: (t :: r :: (inside ++ ['>']) ++ after)) = _
      simp only [List.cons_append, List.append_assoc, List.nil_append, read?, hname, bracket,
        Option.map_some, Option.some.injEq, RowTag.mk.injEq, true_and]
      simp
      omega
    | true =>
      have htne : t ≠ '/' := by
        rintro rfl
        exact absurd ht (by decide)
      show read? place ('<' :: (t :: r :: (inside ++ ['>']) ++ after)) = _
      simp only [List.cons_append, List.append_assoc, List.nil_append]
      unfold read?
      split
      · rename_i heq
        exact absurd (List.cons.inj (List.cons.inj heq).2).1 htne
      · rename_i heq
        obtain rfl := (List.cons.inj heq).2
        simp only [hname, bracket, Option.map_some, Option.some.injEq, RowTag.mk.injEq, true_and]
        simp
        omega
      · rename_i hother
        exact absurd rfl (hother _)

/-- No tag begins where none is written. -/
theorem read?_eq_none_iff : read? place cs = none ↔
    ∀ isOpening written after, Spells isOpening written → cs ≠ written ++ after := by
  rw [Option.eq_none_iff_forall_ne_some]
  constructor
  · intro h isOpening written after hspells heq
    exact h _ (read?_eq_some_iff.mpr ⟨isOpening, written, after, hspells, heq, rfl⟩)
  · intro h tag htag
    obtain ⟨isOpening, written, after, hspells, heq, -⟩ := read?_eq_some_iff.mp htag
    exact h isOpening written after hspells heq

/-! ## A scan -/

/-- What belongs to the last tag is passed over. -/
theorem scan_skip : ∀ (skip : Nat) (cs : List Char) (place : Nat),
    scan place skip cs = scan (place + skip) 0 (cs.drop skip)
  | 0, _, _ => rfl
  | _ + 1, [], _ => by simp [scan]
  | skip + 1, _ :: cs, place => by
    rw [scan, scan_skip skip cs, List.drop_succ_cons, Nat.add_right_comm, Nat.add_assoc]

/-- Behind a tag the scan goes on. -/
theorem scan_spells (h : Spells isOpening written) (place : Nat) (after : List Char) :
    scan place 0 (written ++ after) =
      ⟨isOpening, place, place + written.length⟩ :: scan (place + written.length) 0 after := by
  have hread : read? place (written ++ after) = some ⟨isOpening, place, place + written.length⟩ :=
    read?_eq_some_iff.mpr ⟨isOpening, written, after, h, rfl, rfl⟩
  obtain ⟨c, rest, rfl⟩ := List.exists_cons_of_ne_nil (List.ne_nil_of_length_pos h.length_pos)
  have hplace : place + 1 + rest.length = place + (rest.length + 1) := by omega
  rw [List.cons_append] at hread ⊢
  rw [scan, hread]
  simp only [List.length_cons]
  rw [Nat.add_sub_cancel_left, Nat.add_sub_cancel, scan_skip, List.drop_left, hplace]

/-- A tag by itself is scanned to one tag. -/
theorem scan_of_spells (h : Spells isOpening written) (place : Nat) :
    scan place 0 written = [⟨isOpening, place, place + written.length⟩] := by
  have hscan := scan_spells h place []
  rwa [List.append_nil] at hscan

/-- A character at which no tag begins is passed over. -/
theorem scan_cons {c : Char}
    (h : ∀ isOpening written after, Spells isOpening written → c :: cs ≠ written ++ after)
    (place : Nat) : scan place 0 (c :: cs) = scan (place + 1) 0 cs := by
  rw [scan, read?_eq_none_iff.mpr h]

/-- A character at which no tag begins in a longer text is passed over. -/
theorem scan_cons_of_append {c : Char}
    (h : ∀ isOpening written after, Spells isOpening written →
      c :: (cs ++ more) ≠ written ++ after)
    (place : Nat) : scan place 0 (c :: cs) = scan (place + 1) 0 cs := by
  refine scan_cons (fun isOpening written after hspells heq => ?_) place
  refine h isOpening written (after ++ more) hspells ?_
  rw [← List.append_assoc, ← heq]
  rfl

/-- A scan from a place on: a tag, or a character at which no tag begins, and the rest. -/
inductive Scans : Nat → List Char → List RowTag → Prop where
  | nil (place : Nat) : Scans place [] []
  | tag {place : Nat} {isOpening : Bool} {written after : List Char} {tags : List RowTag} :
      Spells isOpening written → Scans (place + written.length) after tags →
      Scans place (written ++ after) (⟨isOpening, place, place + written.length⟩ :: tags)
  | char {place : Nat} {c : Char} {cs : List Char} {tags : List RowTag} :
      (∀ isOpening written after, Spells isOpening written → c :: cs ≠ written ++ after) →
      Scans (place + 1) cs tags → Scans place (c :: cs) tags

theorem scans_scan (place : Nat) (cs : List Char) : Scans place cs (scan place 0 cs) := by
  induction hn : cs.length using Nat.strongRecOn generalizing place cs with
  | _ n ih =>
    subst hn
    cases cs with
    | nil => exact .nil place
    | cons c cs =>
      cases hread : read? place (c :: cs) with
      | some tag =>
        obtain ⟨isOpening, written, after, hspells, heq, -⟩ := read?_eq_some_iff.mp hread
        rw [heq, scan_spells hspells]
        refine .tag hspells (ih _ ?_ _ _ rfl)
        have hpos := hspells.length_pos
        rw [heq, List.length_append]
        omega
      | none =>
        have hnone := read?_eq_none_iff.mp hread
        rw [scan_cons hnone]
        exact .char hnone (ih _ (Nat.lt_succ_self _) _ _ rfl)

theorem Scans.eq_scan {tags : List RowTag} (h : Scans place cs tags) : tags = scan place 0 cs := by
  induction h with
  | nil => rfl
  | tag hspells _ ih => rw [scan_spells hspells, ← ih]
  | char hnone _ ih => rw [scan_cons hnone, ← ih]

/-- The tags stand in the text. -/
theorem scan_bounds {tags : List RowTag} (h : Scans place cs tags) :
    ∀ tag ∈ tags, place ≤ tag.start ∧ tag.start < tag.stop ∧ tag.stop ≤ place + cs.length := by
  induction h with
  | nil => simp
  | @tag place isOpening written after tags hspells _ ih =>
    have hpos := hspells.length_pos
    rw [List.length_append]
    refine List.forall_mem_cons.mpr ⟨⟨Nat.le_refl _, by simp only; omega, by simp only; omega⟩, ?_⟩
    intro tag htag
    have hbounds := ih tag htag
    omega
  | char _ _ ih =>
    intro tag htag
    have hbounds := ih tag htag
    rw [List.length_cons]
    omega

/-- The tags stand one behind the other. -/
theorem pairwise_scan {tags : List RowTag} (h : Scans place cs tags) :
    tags.Pairwise fun tag next => tag.stop ≤ next.start := by
  induction h with
  | nil => exact .nil
  | tag _ hafter ih => exact .cons (fun next hnext => (scan_bounds hafter next hnext).1) ih
  | char _ _ ih => exact ih

/-- A tag at another place. -/
def shift (k : Nat) (tag : RowTag) : RowTag := ⟨tag.isOpening, tag.start + k, tag.stop + k⟩

/-- The same text has the same tags at every place. -/
theorem scan_add (k place : Nat) (cs : List Char) :
    scan (place + k) 0 cs = (scan place 0 cs).map (shift k) := by
  have hscans := scans_scan place cs
  generalize scan place 0 cs = tags at hscans
  induction hscans with
  | nil => rfl
  | tag hspells _ ih =>
    rw [scan_spells hspells, Nat.add_right_comm, ih]
    rfl
  | char hnone _ ih => rw [scan_cons hnone, Nat.add_right_comm, ih]

/-- There is no tag without a closing bracket. -/
theorem scan_of_notMem (h : '>' ∉ cs) (place : Nat) : scan place 0 cs = [] := by
  have hscans := scans_scan place cs
  generalize scan place 0 cs = tags at hscans
  induction hscans with
  | nil => rfl
  | tag hspells _ _ =>
    obtain ⟨front, rfl, -⟩ := hspells.exists_concat
    exact absurd (by simp) h
  | char _ _ ih => exact ih fun hmem => h (List.mem_cons_of_mem _ hmem)

/-! ## The tags of a part of a text -/

/-- **The tags of the beginning of a text begin the tags of the text**, and the others do not stand
in the beginning. -/
theorem exists_scan_append (place : Nat) (pre post : List Char) :
    ∃ others, scan place 0 (pre ++ post) = scan place 0 pre ++ others ∧
      ∀ tag ∈ others, place + pre.length < tag.stop := by
  have hscans := scans_scan place (pre ++ post)
  generalize scan place 0 (pre ++ post) = tags at hscans
  generalize hcs : pre ++ post = cs at hscans
  induction hscans generalizing pre with
  | nil place =>
    obtain ⟨rfl, -⟩ := List.append_eq_nil_iff.mp hcs
    exact ⟨[], rfl, by simp⟩
  | @tag place isOpening written after tags hspells hafter ih =>
    have hpos := hspells.length_pos
    rcases List.append_eq_append_iff.mp hcs with ⟨rest, hwritten, hpost⟩ | ⟨rest, hpre, hafter'⟩
    · by_cases hrest : rest = []
      · -- The beginning ends with the tag.
        subst hrest
        rw [List.append_nil] at hwritten
        subst hwritten
        refine ⟨tags, by rw [scan_of_spells hspells]; rfl, fun next hnext => ?_⟩
        have hbounds := scan_bounds hafter next hnext
        omega
      · -- The beginning cuts the tag, and so it has no closing bracket.
        subst hwritten
        have hlength : 0 < rest.length := List.length_pos_iff.mpr hrest
        rw [scan_of_notMem (hspells.notMem_of_cut hrest)]
        rw [List.length_append] at hafter ⊢
        refine ⟨_, rfl, List.forall_mem_cons.mpr ⟨by simp only; omega, fun next hnext => ?_⟩⟩
        have hbounds := scan_bounds hafter next hnext
        omega
    · obtain ⟨others, hothers, hstop⟩ := ih rest hafter'.symm
      rw [hpre, scan_spells hspells, hothers]
      refine ⟨others, rfl, fun next hnext => ?_⟩
      rw [List.length_append, ← Nat.add_assoc]
      exact hstop next hnext
  | @char place c cs tags hnone hrest ih =>
    cases pre with
    | nil =>
      refine ⟨tags, rfl, fun next hnext => ?_⟩
      have hbounds := scan_bounds hrest next hnext
      simp only [List.length_nil]
      omega
    | cons c' pre =>
      obtain ⟨rfl, rfl⟩ := List.cons.inj hcs
      obtain ⟨others, hothers, hstop⟩ := ih pre rfl
      refine ⟨others, by rw [scan_cons_of_append hnone, hothers], fun next hnext => ?_⟩
      have hlt := hstop next hnext
      rw [List.length_cons]
      omega

/-- A text is scanned in two parts when no tag is cut. -/
theorem scan_append (h : ∀ tag ∈ scan place 0 (pre ++ post),
    tag.stop ≤ place + pre.length ∨ place + pre.length ≤ tag.start) :
    scan place 0 (pre ++ post) = scan place 0 pre ++ scan (place + pre.length) 0 post := by
  have hscans := scans_scan place (pre ++ post)
  generalize scan place 0 (pre ++ post) = tags at hscans h
  generalize hcs : pre ++ post = cs at hscans
  induction hscans generalizing pre with
  | nil place =>
    obtain ⟨rfl, rfl⟩ := List.append_eq_nil_iff.mp hcs
    rfl
  | @tag place isOpening written after tags hspells hafter ih =>
    obtain ⟨htag, hothers⟩ := List.forall_mem_cons.mp h
    rcases List.append_eq_append_iff.mp hcs with ⟨rest, rfl, rfl⟩ | ⟨rest, rfl, rfl⟩
    · -- The beginning is empty or ends with the tag, or else it cuts the tag.
      simp only [List.length_append] at htag
      rcases htag with hstop | hstart
      · obtain rfl : rest = [] := List.length_eq_zero_iff.mp (by omega)
        rw [List.append_nil] at hspells ⊢
        rw [scan_of_spells hspells, hafter.eq_scan, List.append_nil]
        rfl
      · obtain rfl : pre = [] := List.length_eq_zero_iff.mp (by omega)
        exact (hafter.tag hspells).eq_scan
    · have hplace : place + (written ++ rest).length = place + written.length + rest.length := by
        rw [List.length_append, Nat.add_assoc]
      rw [hplace] at hothers ⊢
      rw [scan_spells hspells, ih hothers rfl]
      rfl
  | @char place c cs tags hnone hrest ih =>
    cases pre with
    | nil =>
      obtain rfl : post = c :: cs := hcs
      exact (hrest.char hnone).eq_scan
    | cons c' pre =>
      obtain ⟨rfl, rfl⟩ := List.cons.inj hcs
      have hplace : place + (c' :: pre).length = place + 1 + pre.length := by
        rw [List.length_cons]
        omega
      rw [hplace] at h ⊢
      rw [scan_cons_of_append hnone, ih h rfl]

/-- **The tags of a part of a text** are the tags of the text that stand in it, when none of them is
cut where the part begins. -/
theorem map_shift_all (pre mid post : List Char)
    (h : ∀ tag ∈ all (pre ++ mid ++ post), tag.stop ≤ pre.length ∨ pre.length ≤ tag.start) :
    (all mid).map (shift pre.length) = (all (pre ++ mid ++ post)).filter fun tag =>
      pre.length ≤ tag.start ∧ tag.stop ≤ pre.length + mid.length := by
  obtain ⟨others, hothers, hbehind⟩ := exists_scan_append 0 (pre ++ mid) post
  rw [← all, ← all] at hothers
  have hcut : all (pre ++ mid) = all pre ++ (all mid).map (shift pre.length) := by
    have hscan : scan 0 0 (pre ++ mid) = scan 0 0 pre ++ scan (0 + pre.length) 0 mid := by
      refine scan_append fun tag htag => ?_
      rw [Nat.zero_add]
      exact h tag (hothers ▸ List.mem_append_left _ htag)
    rwa [scan_add] at hscan
  rw [Nat.zero_add, List.length_append] at hbehind
  rw [hothers, hcut, List.filter_append, List.filter_append, List.filter_eq_nil_iff.mpr,
    List.filter_eq_self.mpr, List.filter_eq_nil_iff.mpr, List.nil_append, List.append_nil]
  · intro tag htag
    have hlt := hbehind tag htag
    simp only [decide_eq_true_eq]
    omega
  · intro tag htag
    obtain ⟨inner, hinner, rfl⟩ := List.mem_map.mp htag
    have hbounds := scan_bounds (scans_scan 0 mid) inner hinner
    refine decide_eq_true (?_ : pre.length ≤ inner.start + pre.length ∧ _)
    simp only [shift]
    omega
  · intro tag htag
    have hbounds := scan_bounds (scans_scan 0 pre) tag htag
    simp only [decide_eq_true_eq]
    omega

end RowTag

end TagTemplates
