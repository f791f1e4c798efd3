import TagTemplates.Proofs.Template.Scanning
import TagTemplates.Template.Expansion

/-!
# Expansion goes on where a text ends

A brace is judged by the text behind it, up to the first character that cannot stand in a tag.  A
scan that succeeds has met this character for every brace, so it stands by its judgement when more
text is put behind; only a brace at the very end had nothing to be judged by.  What follows a text
is therefore cut up, expanded or refused as if it stood alone, with offsets counted from the
beginning of both.

* `candidate_append_of_decided`, `candidate_append_brace`: the judgement of a brace.
* `Segment.attach`, `joinSegments`, `scanSegments_append`: the segments of two texts.
* `TagError.behind`, `scan_append`: the same with the place of an error.
* `expandSegments_joinSegments`, `expandWith_append`: their expansion.
* `GoesOnBehind`, `goesOnBehind_expandWith`: the same, told for each way it can come out.
-/

namespace TagTemplates

variable {text body : List Char} {segments : List Segment} {fallback : Fallback}
  {screen : Path → Expansion} {expanded : List Char}

/-! ## The judgement of a brace -/

/-- The same judgement, with more text behind. -/
def Candidate.before (more : List Char) : Candidate → Candidate
  | closed inner after => closed inner (after ++ more)
  | c => c

/-- A brace that is judged by a text is judged so by any longer one. -/
theorem candidate_append_of_decided (hne : body ≠ []) (hdecided : candidate body ≠ .unterminated)
    (more : List Char) : candidate (body ++ more) = (candidate body).before more := by
  obtain ⟨first, rest, rfl⟩ := List.exists_cons_of_ne_nil hne
  by_cases hbegins : Text.beginsIn Text.isNameChar (first :: rest) = true
  · have hstop : (first :: rest).dropWhile isTagChar ≠ [] := fun hnil => hdecided
      (candidate_eq_unterminated_iff.mpr ⟨hbegins, List.dropWhile_eq_nil_iff.mp hnil⟩)
    obtain ⟨c, after, hafter⟩ := List.exists_cons_of_ne_nil hstop
    have hc : (c :: (after ++ more)).head?.any isTagChar = false := by
      have hhead := Text.head?_dropWhile_any isTagChar (first :: rest)
      rw [hafter] at hhead
      exact hhead
    -- the run in front of the first character that cannot stand in a tag is the same
    have hsplit : first :: rest ++ more =
        (first :: rest).takeWhile isTagChar ++ c :: (after ++ more) := by
      rw [← List.cons_append, ← hafter, ← List.append_assoc, List.takeWhile_append_dropWhile]
    have hrun : ∀ d ∈ (first :: rest).takeWhile isTagChar, isTagChar d = true :=
      List.all_eq_true.mp List.all_takeWhile
    have hlonger : Text.beginsIn Text.isNameChar (first :: rest ++ more) = true := hbegins
    rw [candidate, candidate, if_pos hbegins, if_pos hlonger, hafter, hsplit,
      Text.dropWhile_append_of_head? hrun hc, Text.takeWhile_append_of_head? hrun hc]
    show (if _ then _ else _) = Candidate.before more (if _ then _ else _)
    split
    · rfl
    · rfl
  · have hlonger : ¬Text.beginsIn Text.isNameChar (first :: rest ++ more) = true := hbegins
    rw [candidate, candidate, if_neg hbegins, if_neg hlonger]
    rfl

/-- Up to a brace, a text decides by itself what an opening brace in front of it is. -/
theorem candidate_append_brace (front rest : List Char) :
    candidate (front ++ '{' :: rest) = (candidate (front ++ ['{'])).before rest := by
  have hsplit : front ++ '{' :: rest = front ++ ['{'] ++ rest := by simp
  rw [hsplit]
  refine candidate_append_of_decided (by simp) (fun hopen => ?_) rest
  exact absurd ((candidate_eq_unterminated_iff.mp hopen).2 '{' (by simp)) (by decide)

/-! ## The segments of two texts -/

/-- Put a segment in front of others; text is joined with text. -/
def Segment.attach : Segment → List Segment → List Segment
  | .text chars, others => chars.foldr consChar others
  | .tag path source, others => .tag path source :: others

/-- Put segments in front of others; the texts that meet are one text. -/
def joinSegments (segments others : List Segment) : List Segment :=
  segments.foldr Segment.attach others

theorem joinSegments_consChar (c : Char) (segments others : List Segment) :
    joinSegments (Segment.consChar c segments) others =
      Segment.consChar c (joinSegments segments others) := by
  match segments with
  | [] => rfl
  | .text chars :: rest => rfl
  | .tag path source :: rest => rfl

/-- The end of a text is the end of what is behind one of its characters. -/
theorem getLast?_ne_of_isSuffix {c : Char} {cs : List Char} (h : text.getLast? ≠ some c)
    (hsuffix : cs <:+ text) : cs.getLast? ≠ some c := by
  intro hlast
  obtain ⟨front, rfl⟩ := List.getLast?_eq_some_iff.mp hlast
  obtain ⟨start, rfl⟩ := hsuffix
  rw [← List.append_assoc, List.getLast?_concat] at h
  exact h rfl

/-- **A scan goes on where the text ends**, unless it ends in a brace.  By induction on the
recursion of the scan. -/
theorem scanSegments_append (more text : List Char) : ∀ {segments : List Segment},
    scanSegments text = .ok segments → text.getLast? ≠ some '{' →
      scanSegments (text ++ more) = (scanSegments more).map (joinSegments segments) := by
  fun_induction scanSegments text with
  | case1 =>
    intro segments h _
    obtain rfl := Except.ok.inj h
    exact (map_of_forall (fun _ => rfl) (scanSegments more)).symm
  | case2 body hc ih =>
    intro segments h hlast
    obtain ⟨rest, hrest, rfl⟩ := map_eq_ok_iff.mp h
    have hne : body ≠ [] := by
      rintro rfl
      exact hlast rfl
    have hlonger : candidate (body ++ more) = .literal := by
      rw [candidate_append_of_decided hne (by simp [hc]), hc]
      rfl
    have htail := getLast?_ne_of_isSuffix hlast (List.suffix_cons '{' body)
    rw [List.cons_append, scanSegments_literal hlonger, ih hrest htail]
    exact map_map_of_forall (fun others => (joinSegments_consChar '{' rest others).symm) _
  | case3 body hc =>
    intro segments h
    exact absurd h (by simp)
  | case4 body inner after hc f hf =>
    intro segments h
    exact absurd h (by simp)
  | case5 body inner after hc path hpath ih =>
    intro segments h hlast
    obtain ⟨rest, hrest, rfl⟩ := map_eq_ok_iff.mp h
    obtain ⟨rfl, -, -, -⟩ := candidate_eq_closed_iff.mp hc
    have hlonger : candidate (inner ++ '}' :: after ++ more) = .closed inner (after ++ more) := by
      rw [candidate_append_of_decided (by simp) (by simp [hc]), hc]
      rfl
    have htail := getLast?_ne_of_isSuffix hlast
      ((List.suffix_cons '}' after).trans (List.suffix_append ('{' :: inner) ('}' :: after)))
    rw [List.cons_append, scanSegments_closed hlonger hpath, ih hrest htail]
    exact map_map_of_forall (fun _ => rfl) _
  | case6 c body hne ih =>
    intro segments h hlast
    obtain ⟨rest, hrest, rfl⟩ := map_eq_ok_iff.mp h
    have htail := getLast?_ne_of_isSuffix hlast (List.suffix_cons c body)
    rw [List.cons_append, scanSegments_of_ne hne, ih hrest htail]
    exact map_map_of_forall (fun others => (joinSegments_consChar c rest others).symm) _

/-! ## Errors behind a text -/

/-- The same error, with its place counted from the beginning of the text in front. -/
def TagError.behind (front : List Char) (e : TagError) : TagError :=
  ⟨Text.utf8Size front + e.offset, e.kind⟩

/-- The same error of expansion, met behind a text. -/
def TemplateError.behind (front : List Char) : TemplateError → TemplateError
  | tag e => tag (e.behind front)
  | e => e

theorem Fault.at_append {f : Fault} {more : List Char}
    (h : Text.utf8Size f.rest ≤ Text.utf8Size more) (text : List Char) :
    f.at (text ++ more) = (f.at more).behind text := by
  rw [Fault.at, Fault.at, TagError.behind, Text.utf8Size_append, Nat.add_sub_assoc h]

/-- A fault keeps no more than the text that was scanned. -/
theorem utf8Size_rest_le_of_scanSegments {f : Fault} (h : scanSegments text = .error f) :
    Text.utf8Size f.rest ≤ Text.utf8Size text := by
  obtain ⟨before, body, e, -, -, hsize⟩ := leftmost_of_scanSegments text h
  omega

/-- **What follows a text is scanned as if it stood alone**, and refused at its own place. -/
theorem scan_append (h : scan text = .ok segments) (hlast : text.getLast? ≠ some '{')
    (more : List Char) : scan (text ++ more) =
      ((scan more).map (joinSegments segments)).mapError (TagError.behind text) := by
  have happend := scanSegments_append more text (scan_eq_ok_iff.mp h) hlast
  rw [scan, scan, happend]
  cases hmore : scanSegments more with
  | error f =>
    exact congrArg Except.error (f.at_append (utf8Size_rest_le_of_scanSegments hmore) text)
  | ok others => rfl

/-! ## The expansion of two texts -/

/-- The segments of an expansion that succeeds are expanded one by one. -/
theorem expandSegments_cons_eq_ok {s : Segment} {rest : List Segment} :
    expandSegments fallback screen (s :: rest) = .ok expanded ↔
      ∃ first more, expandSegment fallback screen s = .ok first ∧
        expandSegments fallback screen rest = .ok more ∧ expanded = first ++ more := by
  rw [expandSegments]
  cases expandSegment fallback screen s with
  | error e => simp
  | ok first =>
    cases expandSegments fallback screen rest with
    | error e => simp
    | ok more => simp [eq_comm]

theorem expandSegments_cons_of_ok {s : Segment} {first : List Char}
    (h : expandSegment fallback screen s = .ok first) (rest : List Segment) :
    expandSegments fallback screen (s :: rest) =
      (expandSegments fallback screen rest).map (first ++ ·) := by
  rw [expandSegments, h]
  cases expandSegments fallback screen rest with
  | error e => rfl
  | ok more => rfl

theorem expandSegments_text (chars : List Char) (rest : List Segment) :
    expandSegments fallback screen (.text chars :: rest) =
      (expandSegments fallback screen rest).map (chars ++ ·) :=
  expandSegments_cons_of_ok (s := .text chars) rfl rest

theorem expandSegments_consChar (c : Char) (segments : List Segment) :
    expandSegments fallback screen (Segment.consChar c segments) =
      (expandSegments fallback screen segments).map (c :: ·) := by
  match segments with
  | [] => rfl
  | .tag path source :: rest => exact expandSegments_text [c] _
  | .text chars :: rest =>
    rw [Segment.consChar, expandSegments_text, expandSegments_text]
    exact Eq.symm (map_map_of_forall (fun more => List.cons_append.symm) _)

/-- A segment is expanded where it stands, joined or not. -/
theorem expandSegments_attach {s : Segment} {first : List Char}
    (h : expandSegment fallback screen s = .ok first) (others : List Segment) :
    expandSegments fallback screen (s.attach others) =
      (expandSegments fallback screen others).map (first ++ ·) := by
  cases s with
  | tag path source => exact expandSegments_cons_of_ok h others
  | text chars =>
    obtain rfl : chars = first := Except.ok.inj h
    clear h
    induction chars with
    | nil => exact (map_of_forall (fun _ => rfl) (expandSegments fallback screen others)).symm
    | cons c chars ih =>
      have hrest : expandSegments fallback screen (chars.foldr Segment.consChar others) = _ := ih
      rw [Segment.attach, List.foldr_cons, expandSegments_consChar, hrest]
      exact map_map_of_forall (fun _ => rfl) _

/-- **Segments are expanded where they stand.** -/
theorem expandSegments_joinSegments (others : List Segment) : ∀ {segments : List Segment}
    {expanded : List Char}, expandSegments fallback screen segments = .ok expanded →
      expandSegments fallback screen (joinSegments segments others) =
        (expandSegments fallback screen others).map (expanded ++ ·)
  | [], expanded, h => by
    obtain rfl := Except.ok.inj h
    exact expandSegments_attach (s := .text []) rfl others
  | s :: rest, expanded, h => by
    obtain ⟨first, more, hfirst, hmore, rfl⟩ := expandSegments_cons_eq_ok.mp h
    have hrest := expandSegments_joinSegments others hmore
    rw [joinSegments] at hrest
    rw [joinSegments, List.foldr_cons, expandSegments_attach hfirst, hrest]
    exact map_map_of_forall (fun behind => (List.append_assoc first more behind).symm) _

/-- The only error of expanding segments is a fallback that cannot be put in quotes. -/
theorem exists_unquotable_of_expandSegments {e : TemplateError} : ∀ {segments : List Segment},
    expandSegments fallback screen segments = .error e → ∃ text, e = .unquotable text
  | [], h => absurd h (by simp [expandSegments])
  | .text chars :: rest, h => by
    rw [expandSegments_text, map_eq_error_iff] at h
    exact exists_unquotable_of_expandSegments h
  | .tag path source :: rest, h => by
    cases hliteral : quoteLiteral (fallback.resolve path) with
    | error found =>
      rw [expandSegments, expandSegment, hliteral] at h
      obtain rfl := Except.error.inj h
      rw [quoteLiteral] at hliteral
      split at hliteral
      · exact absurd hliteral (by simp)
      · split at hliteral
        · exact absurd hliteral (by simp)
        · exact ⟨_, (Except.error.inj hliteral).symm⟩
    | ok literal =>
      rw [expandSegments_cons_of_ok (by rw [expandSegment, hliteral]), map_eq_error_iff] at h
      exact exists_unquotable_of_expandSegments h

theorem expandWith_eq_ok_iff : expandWith fallback screen text = .ok expanded ↔
    ∃ segments, scan text = .ok segments ∧
      expandSegments fallback screen segments = .ok expanded := by
  rw [expandWith]
  cases scan text with
  | error e => simp
  | ok segments => simp

/-- **What follows a text is expanded as if it stood alone**, and refused at its own place. -/
theorem expandWith_append (h : expandWith fallback screen text = .ok expanded)
    (hlast : text.getLast? ≠ some '{') (more : List Char) :
    expandWith fallback screen (text ++ more) =
      ((expandWith fallback screen more).map (expanded ++ ·)).mapError
        (TemplateError.behind text) := by
  obtain ⟨segments, hscan, hexpand⟩ := expandWith_eq_ok_iff.mp h
  rw [expandWith, expandWith, scan_append hscan hlast]
  cases scan more with
  | error e => rfl
  | ok others =>
    show expandSegments fallback screen (joinSegments segments others) =
      ((expandSegments fallback screen others).map (expanded ++ ·)).mapError _
    rw [expandSegments_joinSegments others hexpand]
    cases hothers : expandSegments fallback screen others with
    | error e =>
      obtain ⟨found, rfl⟩ := exists_unquotable_of_expandSegments hothers
      rfl
    | ok behind => rfl

/-- What is behind a text is expanded behind its expansion as it is expanded alone: with the same
result, with a fault of the same kind at its own place, or with a fallback that cannot be put in
quotes. -/
structure GoesOnBehind (expander : List Char → Except TemplateError (List Char))
    (text expanded more : List Char) : Prop where
  ok : ∀ behind, expander more = .ok behind → expander (text ++ more) = .ok (expanded ++ behind)
  tag : ∀ offset kind, expander more = .error (.tag ⟨offset, kind⟩) →
    expander (text ++ more) = .error (.tag ⟨Text.utf8Size text + offset, kind⟩)
  unquotable : ∀ found, expander more = .error (.unquotable found) →
    expander (text ++ more) = .error (.unquotable found)
  exhaustive : (∃ behind, expander more = .ok behind) ∨ (∃ e, expander more = .error (.tag e)) ∨
    ∃ found, expander more = .error (.unquotable found)

/-- The errors of an expansion. -/
theorem expandWith_cases (text : List Char) :
    (∃ expanded, expandWith fallback screen text = .ok expanded) ∨
      (∃ e, expandWith fallback screen text = .error (.tag e)) ∨
      ∃ found, expandWith fallback screen text = .error (.unquotable found) := by
  cases hexpand : expandWith fallback screen text with
  | ok expanded => exact Or.inl ⟨expanded, rfl⟩
  | error e =>
    rw [expandWith] at hexpand
    split at hexpand
    · exact Or.inr (Or.inl ⟨_, hexpand.symm⟩)
    · obtain ⟨found, rfl⟩ := exists_unquotable_of_expandSegments hexpand
      exact Or.inr (Or.inr ⟨found, rfl⟩)

/-- **An expansion goes on behind a text** that does not end in a brace. -/
theorem goesOnBehind_expandWith (h : expandWith fallback screen text = .ok expanded)
    (hlast : text.getLast? ≠ some '{') (more : List Char) :
    GoesOnBehind (expandWith fallback screen) text expanded more := by
  have happend := expandWith_append h hlast more
  refine ⟨fun behind hmore => ?_, fun offset kind hmore => ?_, fun found hmore => ?_,
    expandWith_cases more⟩
  · rw [happend, hmore]
    rfl
  · rw [happend, hmore]
    rfl
  · rw [happend, hmore]
    rfl

end TagTemplates
