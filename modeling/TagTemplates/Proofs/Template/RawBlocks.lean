import TagTemplates.Proofs.Template.Markers

/-!
# Raw blocks

A raw block ends at the first tag with the word `endraw`, and takes the whole text when there is
none.  String literals do not count inside it, so a tag ends at the first closing marker.  A text
falls into one of three classes: it begins with a block that ends, it is a block without an end, or
a run of the block leads up to a tag whose two markers share their percent sign.

* `RawRun`: the text of a block up to a place in front of a tag.
* `EndedBlock`, `EndlessBlock`, `OverlapsBlock`: the three classes.
* `BlockSettled`, `blockSettled`: every text is in one of them.
* `cutRawBlock_of_ended`, `cutRawBlock_of_endless`, `cutRawBlock_of_overlaps`: what is cut off.
-/

namespace TagTemplates

variable {chars body run rest block cs : List Char}

/-! ## The three classes -/

/-- The body of a tag in a raw block: it ends at the first closing marker, which shares no character
with the opening one. -/
structure RawTag (body : List Char) : Prop where
  apart : body.head? ≠ some '}'
  first : ¬['%', '}'] <:+: body

/-- The text of a raw block up to a place in front of a tag: text and tags that do not end it. -/
inductive RawRun : List Char → Prop where
  | text {chars : List Char} : ¬['{', '%'] <:+: chars → RawRun chars
  | tag {chars body rest : List Char} : ¬['{', '%'] <:+: chars → RawTag body →
      tagWord body ≠ "endraw".toList → RawRun rest →
      RawRun (chars ++ '{' :: '%' :: (body ++ '%' :: '}' :: rest))

/-- A raw block that ends at a tag with its closing word. -/
def EndedBlock (block : List Char) : Prop :=
  ∃ run body, block = run ++ '{' :: '%' :: (body ++ ['%', '}']) ∧ RawRun run ∧ RawTag body ∧
    tagWord body = "endraw".toList

/-- A raw block without an end: no tag ends it, and the last tag may itself be without an end. -/
def EndlessBlock (block : List Char) : Prop :=
  RawRun block ∨ ∃ run body, block = run ++ '{' :: '%' :: body ∧ RawRun run ∧ RawTag body

/-- The text of a raw block that runs up to a tag whose markers share their percent sign. -/
def OverlapsBlock (cs : List Char) : Prop :=
  ∃ run after, cs = run ++ '{' :: '%' :: '}' :: after ∧ RawRun run

theorem head?_append_closing (h : RawTag body) (rest : List Char) :
    (body ++ '%' :: '}' :: rest).head? ≠ some '}' := by
  cases body with
  | nil => simp
  | cons c body => exact h.apart

/-- Text and a tag in front of the text of a raw block. -/
theorem RawRun.append_tag (hrun : RawRun rest) (hchars : ¬['{', '%'] <:+: chars)
    (hbody : RawTag body) (hword : tagWord body ≠ "endraw".toList) (more : List Char) :
    RawRun (chars ++ '{' :: '%' :: (body ++ '%' :: '}' :: rest)) ∧
      chars ++ '{' :: '%' :: (body ++ '%' :: '}' :: (rest ++ more)) =
        chars ++ '{' :: '%' :: (body ++ '%' :: '}' :: rest) ++ more :=
  ⟨.tag hchars hbody hword hrun, by simp⟩

/-- The text behind the opening tag of a raw block is in one of the classes. -/
def BlockSettled (cs : List Char) : Prop :=
  (∃ block rest, cs = block ++ rest ∧ EndedBlock block) ∨ EndlessBlock cs ∨ OverlapsBlock cs

/-- A tag that does not end the block leaves the class to the text behind it. -/
theorem BlockSettled.tag (h : BlockSettled rest) (hchars : ¬['{', '%'] <:+: chars)
    (hbody : RawTag body) (hword : tagWord body ≠ "endraw".toList) :
    BlockSettled (chars ++ '{' :: '%' :: (body ++ '%' :: '}' :: rest)) := by
  rcases h with ⟨block, more, rfl, run, last, rfl, hrun, hlast⟩ |
    (hrun | ⟨run, last, rfl, hrun, hlast⟩) | ⟨run, after, rfl, hrun⟩
  · obtain ⟨hlonger, heq⟩ := hrun.append_tag hchars hbody hword ('{' :: '%' :: (last ++ ['%', '}']))
    refine Or.inl ⟨_, more, ?_, _, last, heq, hlonger, hlast⟩
    simp
  · exact Or.inr (Or.inl (Or.inl (.tag hchars hbody hword hrun)))
  · obtain ⟨hlonger, heq⟩ := hrun.append_tag hchars hbody hword ('{' :: '%' :: last)
    exact Or.inr (Or.inl (Or.inr ⟨_, last, heq, hlonger, hlast⟩))
  · obtain ⟨hlonger, heq⟩ := hrun.append_tag hchars hbody hword ('{' :: '%' :: '}' :: after)
    exact Or.inr (Or.inr ⟨_, after, heq, hlonger⟩)

/-- **Every text is in one of the classes.**  By induction on its length, one tag at a time. -/
theorem blockSettled (cs : List Char) : BlockSettled cs := by
  induction hn : cs.length using Nat.strongRecOn generalizing cs with
  | _ n ih =>
    cases hopen : cutPair '{' '%' cs with
    | none => exact Or.inr (Or.inl (Or.inl (.text (cutPair_eq_none_iff.mp hopen))))
    | some cut =>
      obtain ⟨chars, inside⟩ := cut
      obtain ⟨rfl, hfirst⟩ := cutPair_eq_some_iff.mp hopen
      have hchars : ¬['{', '%'] <:+: chars := fun h => hfirst (h.trans (List.infix_append' [] _ _))
      by_cases hapart : inside.head? = some '}'
      · obtain ⟨after, rfl⟩ := List.head?_eq_some_iff.mp hapart
        exact Or.inr (Or.inr ⟨chars, after, rfl, .text hchars⟩)
      · cases hclose : cutPair '%' '}' inside with
        | none =>
          have hbody : RawTag inside := ⟨hapart, cutPair_eq_none_iff.mp hclose⟩
          exact Or.inr (Or.inl (Or.inr ⟨chars, inside, rfl, .text hchars, hbody⟩))
        | some cut =>
          obtain ⟨body, rest⟩ := cut
          obtain ⟨rfl, hlast⟩ := cutPair_eq_some_iff.mp hclose
          have hbody : RawTag body := by
            refine ⟨fun h => hapart ?_, fun h => hlast (h.trans (List.infix_append' [] _ _))⟩
            rw [List.head?_append, h]
            rfl
          by_cases hword : tagWord body = "endraw".toList
          · exact Or.inl ⟨chars ++ '{' :: '%' :: (body ++ ['%', '}']), rest, by simp, chars, body,
              rfl, .text hchars, hbody, hword⟩
          · have hshort : rest.length < n := by
              rw [← hn]
              simp only [List.length_append, List.length_cons]
              omega
            exact (ih rest.length hshort rest rfl).tag hchars hbody hword

/-! ## What is cut off -/

theorem cutPair_opening (hchars : ¬['{', '%'] <:+: chars) (inside : List Char) :
    cutPair '{' '%' (chars ++ '{' :: '%' :: inside) = some (chars, inside) :=
  cutPair_append inside (not_infix_concat (by decide) hchars)

theorem cutPair_closing (h : RawTag body) (rest : List Char) :
    cutPair '%' '}' (body ++ '%' :: '}' :: rest) = some (body, rest) :=
  cutPair_append rest (not_infix_concat (by decide) h.first)

/-- Text without a tag is a block without an end. -/
theorem cutRawBlock_text (hchars : ¬['{', '%'] <:+: chars) :
    cutRawBlock chars = .ok (chars, []) := by
  have hopen := cutPair_eq_none_iff.mpr hchars
  rw [cutRawBlock]
  split
  · rfl
  · next hcut => exact absurd (hopen.symm.trans hcut) (by simp)

theorem cutRawBlock_overlap (hchars : ¬['{', '%'] <:+: chars) (after : List Char) :
    cutRawBlock (chars ++ '{' :: '%' :: '}' :: after) = .error .overlappingMarkers := by
  have hopen := cutPair_opening hchars ('}' :: after)
  rw [cutRawBlock]
  split
  · next hcut => exact absurd (hopen.symm.trans hcut) (by simp)
  · next hcut =>
    obtain ⟨rfl, rfl⟩ := Prod.mk.inj (Option.some_inj.mp (hopen.symm.trans hcut))
    exact if_pos rfl

theorem cutRawBlock_open (hchars : ¬['{', '%'] <:+: chars) (h : RawTag body) :
    cutRawBlock (chars ++ '{' :: '%' :: body) = .ok (chars ++ '{' :: '%' :: body, []) := by
  have hopen := cutPair_opening hchars body
  have hclose : cutPair '%' '}' body = none := cutPair_eq_none_iff.mpr h.first
  rw [cutRawBlock]
  split
  · next hcut => exact absurd (hopen.symm.trans hcut) (by simp)
  · next hcut =>
    obtain ⟨rfl, rfl⟩ := Prod.mk.inj (Option.some_inj.mp (hopen.symm.trans hcut))
    rw [if_neg h.apart]
    split
    · rfl
    · next hcut => exact absurd (hclose.symm.trans hcut) (by simp)

/-- A tag ends the block, or the block goes on behind it. -/
theorem cutRawBlock_tag (hchars : ¬['{', '%'] <:+: chars) (h : RawTag body) (rest : List Char) :
    cutRawBlock (chars ++ '{' :: '%' :: (body ++ '%' :: '}' :: rest)) =
      if tagWord body = "endraw".toList then .ok (chars ++ '{' :: '%' :: body ++ ['%', '}'], rest)
      else (cutRawBlock rest).map fun cut =>
        (chars ++ '{' :: '%' :: body ++ ['%', '}'] ++ cut.1, cut.2) := by
  have hopen := cutPair_opening hchars (body ++ '%' :: '}' :: rest)
  have hclose := cutPair_closing h rest
  rw [cutRawBlock]
  split
  · next hcut => exact absurd (hopen.symm.trans hcut) (by simp)
  · next hcut =>
    obtain ⟨rfl, rfl⟩ := Prod.mk.inj (Option.some_inj.mp (hopen.symm.trans hcut))
    rw [if_neg (head?_append_closing h rest)]
    split
    · next hcut => exact absurd (hclose.symm.trans hcut) (by simp)
    · next hcut =>
      obtain ⟨rfl, rfl⟩ := Prod.mk.inj (Option.some_inj.mp (hclose.symm.trans hcut))
      by_cases hword : tagWord body = "endraw".toList
      · rw [if_pos hword, if_pos hword]
      · rw [if_neg hword, if_neg hword]
        cases cutRawBlock rest with
        | error e => rfl
        | ok cut => rfl

/-- **A run is passed over**: what is cut off behind it is cut off behind any text. -/
theorem RawRun.cutRawBlock_append (h : RawRun run) (more : List Char)
    (result : Except Abort (List Char × List Char))
    (hmore : ∀ chars, ¬['{', '%'] <:+: chars →
      cutRawBlock (chars ++ more) = result.map fun cut => (chars ++ cut.1, cut.2)) :
    cutRawBlock (run ++ more) = result.map fun cut => (run ++ cut.1, cut.2) := by
  induction h with
  | text hchars => exact hmore _ hchars
  | @tag chars body rest hchars hbody hword _ ih =>
    rw [List.append_assoc, List.cons_append, List.cons_append, List.append_assoc, List.cons_append,
      List.cons_append, cutRawBlock_tag hchars hbody, if_neg hword, ih]
    cases result with
    | error e => rfl
    | ok cut => simp [Except.map]

/-- **A block that ends is cut off**, whatever follows it. -/
theorem cutRawBlock_of_ended (h : EndedBlock block) (rest : List Char) :
    cutRawBlock (block ++ rest) = .ok (block, rest) := by
  obtain ⟨run, body, rfl, hrun, hbody, hword⟩ := h
  have hcut := hrun.cutRawBlock_append ('{' :: '%' :: (body ++ '%' :: '}' :: rest))
    (.ok ('{' :: '%' :: (body ++ ['%', '}']), rest)) fun chars hchars => by
      rw [cutRawBlock_tag hchars hbody, if_pos hword]
      simp [Except.map]
  simpa [Except.map] using hcut

/-- **A block without an end takes the whole text.** -/
theorem cutRawBlock_of_endless (h : EndlessBlock block) : cutRawBlock block = .ok (block, []) := by
  rcases h with hrun | ⟨run, body, rfl, hrun, hbody⟩
  · have hcut := hrun.cutRawBlock_append [] (.ok ([], [])) fun chars hchars => by
      rw [List.append_nil, cutRawBlock_text hchars]
      simp [Except.map]
    simpa [Except.map] using hcut
  · exact hrun.cutRawBlock_append ('{' :: '%' :: body) (.ok ('{' :: '%' :: body, []))
      fun chars hchars => cutRawBlock_open hchars hbody

/-- **A tag whose markers overlap cannot be treated.** -/
theorem cutRawBlock_of_overlaps (h : OverlapsBlock cs) :
    cutRawBlock cs = .error .overlappingMarkers := by
  obtain ⟨run, after, rfl, hrun⟩ := h
  exact hrun.cutRawBlock_append ('{' :: '%' :: '}' :: after) (.error .overlappingMarkers)
    fun chars hchars => cutRawBlock_overlap hchars after

end TagTemplates
