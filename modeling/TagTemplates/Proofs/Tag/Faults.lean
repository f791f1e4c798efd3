import TagTemplates.Proofs.Tag.Grammar

/-!
# Where the readers of tags stop

A reader that fails keeps the text from the fault on.  This is always an end of the text that it was
given, so the offset of a fault can be told in any text around it.

* `rest_isSuffix_of_readStep`, `rest_isSuffix_of_readSteps`, `rest_isSuffix_of_readPath`: what is
  kept is an end of the text.
* `read_eq_error_iff`: the fault of a bare path and its offset.
-/

namespace TagTemplates

variable {cs : List Char} {f : Fault}

theorem skipBlanks_isSuffix (cs : List Char) : skipBlanks cs <:+ cs := List.dropWhile_suffix _

theorem rest_eq_of_readIndex (h : readIndex cs = .error f) : f.rest = cs := by
  unfold readIndex at h
  simp only at h
  split at h
  · split at h
    · exact (congrArg Fault.rest (Except.error.inj h)).symm
    · exact (congrArg Fault.rest (Except.error.inj h)).symm
  · split at h
    · exact (congrArg Fault.rest (Except.error.inj h)).symm
    · split at h
      · exact (congrArg Fault.rest (Except.error.inj h)).symm
      · exact absurd h (by simp)

theorem rest_isSuffix_of_readIndexPart (h : readIndexPart cs = .error f) : f.rest <:+ cs := by
  have hskip := skipBlanks_isSuffix cs
  unfold readIndexPart at h
  split at h
  · rename_i more hcolon
    split at h
    · rename_i g hread
      obtain rfl := Except.error.inj h
      rw [rest_eq_of_readIndex hread]
      rw [hcolon] at hskip
      exact (skipBlanks_isSuffix more).trans ((List.suffix_cons ':' more).trans hskip)
    · exact absurd h (by simp)
  · exact absurd h (by simp)

theorem rest_isSuffix_of_readStep (h : readStep cs = .error f) : f.rest <:+ cs := by
  unfold readStep at h
  simp only at h
  split at h
  · obtain rfl := Except.error.inj h
    exact List.suffix_rfl
  · split at h
    · rename_i g hread
      obtain rfl := Except.error.inj h
      exact (rest_isSuffix_of_readIndexPart hread).trans (List.dropWhile_suffix _)
    · exact absurd h (by simp)

/-- What is left behind a step is an end of the text. -/
theorem isSuffix_of_readStep {s : Step} {rest : List Char} (h : readStep cs = .ok (s, rest)) :
    rest <:+ cs := by
  obtain ⟨written, gap, hcs, -, -⟩ := spelledBy_of_readStep h
  exact ⟨written ++ gap, by rw [hcs, List.append_assoc]⟩

/-- **The fault of steps is met in an end of the text.**  By induction on the recursion of the
reader. -/
theorem rest_isSuffix_of_readSteps (cs : List Char) : ∀ {f : Fault},
    readSteps cs = .error f → f.rest <:+ cs := by
  fun_induction readSteps cs with
  | case1 cs g hs =>
    intro f h
    obtain rfl := Except.error.inj h
    exact rest_isSuffix_of_readStep hs
  | case2 cs step rest hs hr =>
    intro f h
    exact absurd h (by simp)
  | case3 cs step rest hs more g hg hr ih =>
    intro f h
    obtain rfl := Except.error.inj h
    have hrest : '.' :: more <:+ cs :=
      (hr ▸ skipBlanks_isSuffix rest).trans (isSuffix_of_readStep hs)
    exact (ih hg).trans ((skipBlanks_isSuffix more).trans ((List.suffix_cons '.' more).trans hrest))
  | case4 cs step rest hs more next steps hnext hr ih =>
    intro f h
    exact absurd h (by simp)
  | case5 cs step rest hs c more hr hne =>
    intro f h
    obtain rfl := Except.error.inj h
    exact (hr ▸ skipBlanks_isSuffix rest).trans (isSuffix_of_readStep hs)

theorem rest_isSuffix_of_readPath (h : readPath cs = .error f) : f.rest <:+ cs := by
  unfold readPath at h
  split at h
  · rename_i g hread
    obtain rfl := Except.error.inj h
    exact (rest_isSuffix_of_readSteps _ hread).trans (skipBlanks_isSuffix cs)
  · exact absurd h (by simp)

/-- An end of a text is no larger than the text. -/
theorem utf8Size_le_of_isSuffix {as bs : List Char} (h : as <:+ bs) :
    Text.utf8Size as ≤ Text.utf8Size bs := by
  obtain ⟨front, rfl⟩ := h
  rw [Text.utf8Size_append]
  omega

/-- The offset of the fault of a bare path is the size of the text before it. -/
theorem read_eq_error_iff {e : TagError} : Path.read cs = .error e ↔
    ∃ f, readPath cs = .error f ∧ f.kind = e.kind ∧
      e.offset + Text.utf8Size f.rest = Text.utf8Size cs := by
  rw [Path.read]
  cases hread : readPath cs with
  | ok path => simp
  | error f =>
    have hle := utf8Size_le_of_isSuffix (rest_isSuffix_of_readPath hread)
    simp only [Except.error.injEq, exists_eq_left']
    constructor
    · rintro rfl
      refine ⟨rfl, ?_⟩
      show Text.utf8Size cs - Text.utf8Size f.rest + Text.utf8Size f.rest = Text.utf8Size cs
      omega
    · rintro ⟨hkind, hoffset⟩
      obtain ⟨offset, kind⟩ := e
      rw [Fault.at, TagError.mk.injEq]
      exact ⟨by simp only at hoffset; omega, hkind⟩

end TagTemplates
