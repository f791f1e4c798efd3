import TagTemplates.Proofs.Attempts
import TagTemplates.Proofs.Text.Basic
import TagTemplates.Template.Segment

/-!
# Steps that are read

The readers hand out folded names and bounded indices only, wherever a step was written.

* `Step.Written`: the name is folded and the index can be written.
* `written_of_readStep`, `written_of_readSteps`: one step and several.
* `written_of_scan`: every step of every tag of a template.
-/

namespace TagTemplates

/-- A step as the readers hand it out: its name is folded, and its index can be written. -/
structure Step.Written (s : Step) : Prop where
  name : Text.fold s.name = s.name
  index : ∀ i, s.index = some i → i < maxIndex

/-- Text, or a tag whose steps are all written. -/
def Segment.Written : Segment → Prop
  | text _ => True
  | tag path _ => ∀ s ∈ path.steps, s.Written

theorem lt_maxIndex_of_readIndex {cs rest : List Char} {i : Nat}
    (h : readIndex cs = .ok (i, rest)) : i < maxIndex := by
  unfold readIndex at h
  simp only at h
  split at h
  · split at h
    · exact absurd h (by simp)
    · exact absurd h (by simp)
  · split at h
    · exact absurd h (by simp)
    · rename_i hlarge
      split at h
      · exact absurd h (by simp)
      · rename_i hzero
        obtain ⟨rfl, -⟩ := Prod.mk.inj (Except.ok.inj h)
        omega

theorem lt_maxIndex_of_readIndexPart {cs rest : List Char} {index : Option Nat}
    (h : readIndexPart cs = .ok (index, rest)) : ∀ i, index = some i → i < maxIndex := by
  unfold readIndexPart at h
  split at h
  · split at h
    · exact absurd h (by simp)
    · rename_i j rest' hread
      obtain ⟨rfl, -⟩ := Prod.mk.inj (Except.ok.inj h)
      intro i hi
      obtain rfl := Option.some_inj.mp hi
      exact lt_maxIndex_of_readIndex hread
  · obtain ⟨rfl, -⟩ := Prod.mk.inj (Except.ok.inj h)
    intro i hi
    exact absurd hi (by simp)

/-- A step that is read is written. -/
theorem written_of_readStep {cs rest : List Char} {s : Step} (h : readStep cs = .ok (s, rest)) :
    s.Written := by
  unfold readStep at h
  simp only at h
  split at h
  · exact absurd h (by simp)
  · split at h
    · exact absurd h (by simp)
    · rename_i index rest' hread
      obtain ⟨rfl, -⟩ := Prod.mk.inj (Except.ok.inj h)
      exact ⟨Text.fold_fold _, lt_maxIndex_of_readIndexPart hread⟩

/-- Steps that are read are written.  By induction on the recursion of the reader. -/
theorem written_of_readSteps (cs : List Char) : ∀ {root : Step} {rest : List Step},
    readSteps cs = .ok (root, rest) → ∀ s ∈ root :: rest, s.Written := by
  fun_induction readSteps cs with
  | case1 cs f hs =>
    intro root rest h
    exact absurd h (by simp)
  | case2 cs step more hs hr =>
    intro root rest h
    obtain ⟨rfl, rfl⟩ := Prod.mk.inj (Except.ok.inj h)
    exact List.forall_mem_singleton.mpr (written_of_readStep hs)
  | case3 cs step more hs tail f hf hr ih =>
    intro root rest h
    exact absurd h (by simp)
  | case4 cs step more hs tail next steps hnext hr ih =>
    intro root rest h
    obtain ⟨rfl, rfl⟩ := Prod.mk.inj (Except.ok.inj h)
    exact List.forall_mem_cons.mpr ⟨written_of_readStep hs, ih hnext⟩
  | case5 cs step more hs c tail hr hne =>
    intro root rest h
    exact absurd h (by simp)

theorem written_of_readPath {cs : List Char} {path : Path} (h : readPath cs = .ok path) :
    ∀ s ∈ path.steps, s.Written := by
  unfold readPath at h
  split at h
  · exact absurd h (by simp)
  · rename_i root rest hread
    obtain rfl := Except.ok.inj h
    exact written_of_readSteps _ hread

/-- A literal character changes no tag. -/
theorem written_of_consChar {c : Char} {segments : List Segment}
    (h : ∀ s ∈ segments, s.Written) : ∀ s ∈ Segment.consChar c segments, s.Written := by
  cases segments with
  | nil => exact List.forall_mem_singleton.mpr trivial
  | cons first rest =>
    cases first with
    | text chars =>
      exact List.forall_mem_cons.mpr ⟨trivial, (List.forall_mem_cons.mp h).2⟩
    | tag path source => exact List.forall_mem_cons.mpr ⟨trivial, h⟩

/-- The tags of scanned segments are written. -/
theorem written_of_scanSegments (cs : List Char) : ∀ {segments : List Segment},
    scanSegments cs = .ok segments → ∀ s ∈ segments, s.Written := by
  fun_induction scanSegments cs with
  | case1 =>
    intro segments h
    obtain rfl := Except.ok.inj h
    exact fun s hs => absurd hs List.not_mem_nil
  | case2 body hc ih =>
    intro segments h
    obtain ⟨rest, hrest, rfl⟩ := map_eq_ok_iff.mp h
    exact written_of_consChar (ih hrest)
  | case3 body hc =>
    intro segments h
    exact absurd h (by simp)
  | case4 body inner after hc f hf =>
    intro segments h
    exact absurd h (by simp)
  | case5 body inner after hc path hpath ih =>
    intro segments h
    obtain ⟨rest, hrest, rfl⟩ := map_eq_ok_iff.mp h
    exact List.forall_mem_cons.mpr ⟨written_of_readPath hpath, ih hrest⟩
  | case6 c body hne ih =>
    intro segments h
    obtain ⟨rest, hrest, rfl⟩ := map_eq_ok_iff.mp h
    exact written_of_consChar (ih hrest)

/-- **The tags of a template are written.** -/
theorem written_of_scan {template : List Char} {segments : List Segment}
    (h : scan template = .ok segments) : ∀ s ∈ segments, s.Written := by
  unfold scan at h
  split at h
  · exact absurd h (by simp)
  · rename_i scanned hscanned
    obtain rfl := Except.ok.inj h
    exact written_of_scanSegments template hscanned

end TagTemplates
