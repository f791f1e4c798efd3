import TagTemplates.Proofs.Tag.LetterCase
import TagTemplates.Proofs.Template.Scanning
import TagTemplates.Template.Expansion

/-!
# The case of letters in templates

Two templates that differ only in the case of letters inside tags are cut up alike: the same text
around tags of the same paths.  So they are expanded to the same text, or both are refused at the
same place.

* `CaseInTags`: such templates.
* `CaseInTags.of_closed`, `CaseInTags.of_unterminated`, `CaseInTags.of_literal`: every brace is
  taken for the same in both.
* `scannedAlike_of_caseInTags`: how they are cut up.
* `expandWith_of_caseInTags`: what they are expanded to.
-/

namespace TagTemplates

/-- The text behind the brace of a tag that never ends. -/
structure TagRun (body : List Char) : Prop where
  begins : Text.beginsIn Text.isNameChar body = true
  all : ∀ c ∈ body, isTagChar c = true

/-- The text between the braces of a tag. -/
structure TagText (inner : List Char) : Prop extends TagRun inner where
  ends : Text.endsIn Text.isBlank inner = false

/-- The templates differ in the case of letters inside tags only, where a tag without an end goes on
to the end of the template. -/
inductive CaseInTags : List Char → List Char → Prop where
  | nil : CaseInTags [] []
  | char (c : Char) {rest rest' : List Char} : CaseInTags rest rest' →
      CaseInTags (c :: rest) (c :: rest')
  | tag {inner inner' after after' : List Char} : TagText inner →
      Text.foldChars inner = Text.foldChars inner' → CaseInTags after after' →
      CaseInTags ('{' :: (inner ++ '}' :: after)) ('{' :: (inner' ++ '}' :: after'))
  | unterminated {body body' : List Char} : TagRun body →
      Text.foldChars body = Text.foldChars body' → CaseInTags ('{' :: body) ('{' :: body')

/-! ## What the case of letters leaves alone -/

section

variable {cs ds : List Char} {p : Char → Bool}

theorem caseless_isTagChar : Text.Caseless isTagChar := by
  intro c
  have hdot : (c.toLower == '.') = (c == '.') := Text.caseless_beq (by decide) c
  have hcolon : (c.toLower == ':') = (c == ':') := Text.caseless_beq (by decide) c
  rw [isTagChar, isTagChar, Text.caseless_isNameChar, Text.caseless_isBlank, hdot, hcolon]

/-- Texts that are folded to the same begin in the same caseless class. -/
theorem beginsIn_of_foldChars_eq (hp : Text.Caseless p)
    (h : Text.foldChars cs = Text.foldChars ds) : Text.beginsIn p cs = Text.beginsIn p ds := by
  have hfold : ∀ as : List Char, Text.beginsIn p (Text.foldChars as) = Text.beginsIn p as := by
    intro as
    cases as with
    | nil => rfl
    | cons c as => exact hp c
  rw [← hfold cs, h, hfold ds]

theorem endsIn_of_foldChars_eq (hp : Text.Caseless p)
    (h : Text.foldChars cs = Text.foldChars ds) : Text.endsIn p cs = Text.endsIn p ds := by
  have hfold : ∀ as : List Char, Text.endsIn p (Text.foldChars as) = Text.endsIn p as := by
    intro as
    rw [Text.endsIn, Text.endsIn, Text.foldChars, List.getLast?_map, Option.any_map]
    congr 1
    exact funext hp
  rw [← hfold cs, h, hfold ds]

theorem forall_mem_of_foldChars_eq (hp : Text.Caseless p)
    (h : Text.foldChars cs = Text.foldChars ds) (hcs : ∀ c ∈ cs, p c = true) :
    ∀ d ∈ ds, p d = true := by
  intro d hd
  have hmem : d.toLower ∈ Text.foldChars cs := h ▸ List.mem_map_of_mem hd
  obtain ⟨c, hc, hlower⟩ := List.mem_map.mp hmem
  rw [← hp d, ← hlower, hp c]
  exact hcs c hc

theorem utf8Size_of_foldChars_eq (h : Text.foldChars cs = Text.foldChars ds) :
    Text.utf8Size cs = Text.utf8Size ds := by
  rw [← Text.utf8Size_foldChars cs, h, Text.utf8Size_foldChars]

end

theorem TagRun.of_foldChars_eq {body body' : List Char} (h : TagRun body)
    (hfold : Text.foldChars body = Text.foldChars body') : TagRun body' where
  begins := (beginsIn_of_foldChars_eq Text.caseless_isNameChar hfold).symm.trans h.begins
  all := forall_mem_of_foldChars_eq caseless_isTagChar hfold h.all

theorem TagText.of_foldChars_eq {inner inner' : List Char} (h : TagText inner)
    (hfold : Text.foldChars inner = Text.foldChars inner') : TagText inner' where
  toTagRun := h.toTagRun.of_foldChars_eq hfold
  ends := (endsIn_of_foldChars_eq Text.caseless_isBlank hfold).symm.trans h.ends

/-- No brace stands inside a tag. -/
theorem TagRun.brace_notMem {body : List Char} (h : TagRun body) : '{' ∉ body := by
  intro hmem
  exact absurd (h.all '{' hmem) (by decide)

theorem candidate_of_tagRun {body : List Char} (h : TagRun body) : candidate body = .unterminated :=
  candidate_eq_unterminated_iff.mpr ⟨h.begins, h.all⟩

theorem candidate_of_tagText {inner : List Char} (h : TagText inner) (after : List Char) :
    candidate (inner ++ '}' :: after) = .closed inner after :=
  candidate_append h.begins h.all h.ends after

namespace CaseInTags

variable {text other body inner after : List Char}

theorem foldChars_eq (h : CaseInTags text other) : Text.foldChars text = Text.foldChars other := by
  induction h with
  | nil => rfl
  | char c _ ih => rw [Text.foldChars_cons, Text.foldChars_cons, ih]
  | tag _ hfold _ ih =>
    simp only [Text.foldChars, List.map_cons, List.map_append] at hfold ih ⊢
    rw [hfold, ih]
  | unterminated _ hfold => rw [Text.foldChars_cons, Text.foldChars_cons, hfold]

theorem symm (h : CaseInTags text other) : CaseInTags other text := by
  induction h with
  | nil => exact nil
  | char c _ ih => exact char c ih
  | tag htag hfold _ ih => exact tag (htag.of_foldChars_eq hfold) hfold.symm ih
  | unterminated hrun hfold => exact unterminated (hrun.of_foldChars_eq hfold) hfold.symm

/-- Text without a brace stands in both templates as it is. -/
theorem exists_append : ∀ {front rest other : List Char}, '{' ∉ front →
    CaseInTags (front ++ rest) other → ∃ rest', other = front ++ rest' ∧ CaseInTags rest rest'
  | [], rest, other, _, h => ⟨other, rfl, h⟩
  | c :: front, rest, other, hbrace, h => by
    obtain ⟨hc, hfront⟩ := not_or.mp (mt List.mem_cons.mpr hbrace)
    rw [List.cons_append] at h
    generalize htext : front ++ rest = text at h
    cases h with
    | char _ hrest =>
      subst htext
      obtain ⟨rest', rfl, hrest'⟩ := exists_append hfront hrest
      exact ⟨rest', rfl, hrest'⟩
    | tag => exact absurd rfl hc
    | unterminated => exact absurd rfl hc

/-! ## What an opening brace is taken for -/

/-- A brace that begins a tag begins one with the same letters in the other template. -/
theorem of_closed (h : CaseInTags ('{' :: body) other) (hc : candidate body = .closed inner after) :
    ∃ inner' after', other = '{' :: (inner' ++ '}' :: after') ∧
      candidate (inner' ++ '}' :: after') = .closed inner' after' ∧
      Text.foldChars inner = Text.foldChars inner' ∧ CaseInTags after after' := by
  obtain ⟨hbody, hbegins, hall, hends⟩ := candidate_eq_closed_iff.mp hc
  have hinner : TagText inner := ⟨⟨hbegins, hall⟩, hends⟩
  cases h with
  | char _ hrest =>
    rw [hbody] at hrest
    obtain ⟨rest', rfl, hrest'⟩ := exists_append hinner.brace_notMem hrest
    have htail : CaseInTags (['}'] ++ after) rest' := hrest'
    obtain ⟨after', rfl, hafter⟩ := exists_append (by decide) htail
    exact ⟨inner, after', rfl, candidate_of_tagText hinner after', rfl, hafter⟩
  | @tag tagInner inner' tagAfter after' htag hfold hafter =>
    obtain ⟨rfl, rfl⟩ := Candidate.closed.inj ((candidate_of_tagText htag tagAfter).symm.trans hc)
    have hclosed := candidate_of_tagText (htag.of_foldChars_eq hfold) after'
    exact ⟨inner', after', rfl, hclosed, hfold, hafter⟩
  | unterminated hrun => exact absurd ((candidate_of_tagRun hrun).symm.trans hc) (by simp)

/-- A tag that never ends does not end in the other template. -/
theorem of_unterminated (h : CaseInTags ('{' :: body) other) (hc : candidate body = .unterminated) :
    ∃ body', other = '{' :: body' ∧ candidate body' = .unterminated := by
  obtain ⟨hbegins, hall⟩ := candidate_eq_unterminated_iff.mp hc
  have hbody : TagRun body := ⟨hbegins, hall⟩
  cases h with
  | char _ hrest =>
    rw [← List.append_nil body] at hrest
    obtain ⟨rest', rfl, hrest'⟩ := exists_append hbody.brace_notMem hrest
    cases hrest' with
    | nil =>
      rw [List.append_nil]
      exact ⟨body, rfl, hc⟩
  | tag htag => exact absurd ((candidate_of_tagText htag _).symm.trans hc) (by simp)
  | @unterminated _ body' hrun hfold =>
    exact ⟨body', rfl, candidate_of_tagRun (hrun.of_foldChars_eq hfold)⟩

/-- A brace that is text is text in the other template, because the two trade places otherwise. -/
theorem of_literal (h : CaseInTags ('{' :: body) other) (hc : candidate body = .literal) :
    ∃ body', other = '{' :: body' ∧ candidate body' = .literal ∧ CaseInTags body body' := by
  have hsymm := h.symm
  cases h with
  | @char _ rest rest' hrest =>
    refine ⟨rest', rfl, ?_, hrest⟩
    cases hc' : candidate rest' with
    | literal => rfl
    | unterminated =>
      obtain ⟨body', hbody, hopen⟩ := hsymm.of_unterminated hc'
      obtain rfl : body = body' := (List.cons.inj hbody).2
      exact absurd (hopen.symm.trans hc) (by simp)
    | closed inner after =>
      obtain ⟨inner', after', hbody, hclosed, -, -⟩ := hsymm.of_closed hc'
      obtain rfl := (List.cons.inj hbody).2
      exact absurd (hclosed.symm.trans hc) (by simp)
  | tag htag => exact absurd ((candidate_of_tagText htag _).symm.trans hc) (by simp)
  | unterminated hrun => exact absurd ((candidate_of_tagRun hrun).symm.trans hc) (by simp)

end CaseInTags

/-! ## Segments -/

namespace Segment

/-- The segments are the same text, or tags of the same path. -/
inductive SameContent : Segment → Segment → Prop where
  | text (chars : List Char) : SameContent (text chars) (text chars)
  | tag (path : Path) (source source' : List Char) :
      SameContent (tag path source) (tag path source')

theorem forall₂_consChar {segments others : List Segment} (c : Char)
    (h : List.Forall₂ SameContent segments others) :
    List.Forall₂ SameContent (consChar c segments) (consChar c others) := by
  cases h with
  | nil => exact .cons (.text [c]) .nil
  | cons hs hrest =>
    cases hs with
    | text chars => exact .cons (.text (c :: chars)) hrest
    | tag path source source' => exact .cons (.text [c]) (.cons (.tag path source source') hrest)

end Segment

/-- Both scans succeed with the same contents, or both stop with as much text left. -/
inductive ScannedAlike :
    Except Fault (List Segment) → Except Fault (List Segment) → Prop where
  | ok {segments others : List Segment} : List.Forall₂ Segment.SameContent segments others →
      ScannedAlike (.ok segments) (.ok others)
  | error {f g : Fault} : Text.utf8Size f.rest = Text.utf8Size g.rest →
      ScannedAlike (.error f) (.error g)

/-- Segments that are put in front alike. -/
theorem ScannedAlike.map {r r' : Except Fault (List Segment)} {f g : List Segment → List Segment}
    (h : ScannedAlike r r')
    (hfg : ∀ segments others, List.Forall₂ Segment.SameContent segments others →
      List.Forall₂ Segment.SameContent (f segments) (g others)) :
    ScannedAlike (r.map f) (r'.map g) := by
  cases h with
  | ok hsegments => exact .ok (hfg _ _ hsegments)
  | error hrest => exact .error hrest

/-- **Templates that differ in the case of letters inside tags are cut up alike.**  By induction on
the recursion of the scan. -/
theorem scannedAlike_of_caseInTags (text : List Char) : ∀ {other : List Char},
    CaseInTags text other → ScannedAlike (scanSegments text) (scanSegments other) := by
  fun_induction scanSegments text with
  | case1 =>
    intro other h
    cases h with
    | nil =>
      rw [scanSegments]
      exact .ok .nil
  | case2 body hc ih =>
    intro other h
    obtain ⟨body', rfl, hc', hbody⟩ := h.of_literal hc
    rw [scanSegments_brace, hc']
    exact (ih hbody).map fun _ _ => Segment.forall₂_consChar '{'
  | case3 body hc =>
    intro other h
    obtain ⟨body', rfl, hc'⟩ := h.of_unterminated hc
    rw [scanSegments_brace, hc']
    exact .error (utf8Size_of_foldChars_eq h.foldChars_eq)
  | case4 body inner after hc f hf =>
    intro other h
    obtain ⟨inner', after', rfl, hc', hfold, hafter⟩ := h.of_closed hc
    rw [scanSegments_brace, hc']
    rcases readPath_of_foldChars_eq hfold with ⟨path, hpath, -⟩ | ⟨f', g, hf', hg, hrest⟩
    · exact absurd (hf.symm.trans hpath) (by simp)
    · obtain rfl : f = f' := Except.error.inj (hf.symm.trans hf')
      simp only [hg]
      refine .error ?_
      show Text.utf8Size (f.rest ++ _) = Text.utf8Size (g.rest ++ _)
      rw [Text.utf8Size_append, Text.utf8Size_append, hrest, Text.utf8Size_cons, Text.utf8Size_cons,
        utf8Size_of_foldChars_eq hafter.foldChars_eq]
  | case5 body inner after hc path hpath ih =>
    intro other h
    obtain ⟨inner', after', rfl, hc', hfold, hafter⟩ := h.of_closed hc
    rw [scanSegments_brace, hc']
    rcases readPath_of_foldChars_eq hfold with ⟨path', hpath', hother⟩ | ⟨f, g, hf, -, -⟩
    · obtain rfl : path = path' := Except.ok.inj (hpath.symm.trans hpath')
      simp only [hother]
      exact (ih hafter).map fun _ _ hrest => .cons (.tag path _ _) hrest
    · exact absurd (hpath.symm.trans hf) (by simp)
  | case6 c body hne ih =>
    intro other h
    have hhead : '{' ∉ [c] := fun hmem => hne (List.mem_singleton.mp hmem).symm
    have hsplit : CaseInTags ([c] ++ body) other := h
    obtain ⟨body', rfl, hbody⟩ := hsplit.exists_append hhead
    rw [List.singleton_append, scanSegments_of_ne hne]
    exact (ih hbody).map fun _ _ => Segment.forall₂_consChar c

/-! ## Expansions -/

/-- Both attempts give the same, or both are refused for tags at the same place. -/
def SameOutcome {α : Type} (r r' : Except TemplateError α) : Prop :=
  r = r' ∨ ∃ e e' : TagError, r = .error (.tag e) ∧ r' = .error (.tag e') ∧ e.offset = e'.offset

theorem expandSegments_of_sameContent (fallback : Fallback) (screen : Path → Expansion)
    {segments others : List Segment} (h : List.Forall₂ Segment.SameContent segments others) :
    expandSegments fallback screen segments = expandSegments fallback screen others := by
  induction h with
  | nil => rfl
  | cons hs _ ih =>
    cases hs with
    | text chars => rw [expandSegments, expandSegments, ih]
    | tag path source source' =>
      rw [expandSegments, expandSegments, ih]
      rfl

/-- **Templates that differ in the case of letters inside tags are expanded alike**, whatever the
fallback and however the tags are screened. -/
theorem expandWith_of_caseInTags (fallback : Fallback) (screen : Path → Expansion)
    {text other : List Char} (h : CaseInTags text other) :
    SameOutcome (expandWith fallback screen text) (expandWith fallback screen other) := by
  have hsize := utf8Size_of_foldChars_eq h.foldChars_eq
  have hscanned := scannedAlike_of_caseInTags text h
  rw [expandWith, expandWith, scan, scan]
  generalize scanSegments text = scanned at hscanned ⊢
  generalize scanSegments other = scanned' at hscanned ⊢
  cases hscanned with
  | ok hsegments => exact Or.inl (expandSegments_of_sameContent fallback screen hsegments)
  | @error f g hrest =>
    refine Or.inr ⟨f.at text, g.at other, rfl, rfl, ?_⟩
    show Text.utf8Size text - Text.utf8Size f.rest = Text.utf8Size other - Text.utf8Size g.rest
    rw [hsize, hrest]

end TagTemplates
