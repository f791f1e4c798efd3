import TagTemplates.Proofs.Tag.FirstFaults
import TagTemplates.Proofs.Template.Locality

/-!
# Errors point at the first fault

The error of a bare path and that of a scan tell where the text is at fault.  The offset is that of
a character, what stands there is what the error says, and what stands before it is not to blame: it
can be completed to a text that is read.  A scan is completed from the brace of its tag at fault,
for the text in front of this brace is cut up as before.

* `PointsAt`: an error and the place in a text that it is about.
* `faultBehind_append_brace`: a tag at fault is at fault whatever follows the next brace.
* `exists_scan_append_tag`: a tag without fault in place of the first one at fault.
* `exists_opened_of_faultBehind`: the fault behind a brace.
* `errors_point_at_first_fault`: both readers, with `errors_point_at_first_fault_of_index` for two
  texts.
-/

namespace TagTemplates

variable {text before rest body : List Char} {e : TagError} {path : Path}

/-- An error that is about this place of a text: its offset is the size of what stands before, and
it fits the text there. -/
structure PointsAt (e : TagError) (text before rest : List Char) : Prop where
  text_eq : text = before ++ rest
  offset : e.offset = Text.utf8Size before
  fits : e.kind.Fits before rest

/-! ## Tags in front of a brace -/

/-- A brace that begins a tag at fault does so whatever follows the next brace: the tag ends in
front of that. -/
theorem faultBehind_append_brace {front : List Char}
    (h : FaultBehind (front ++ '{' :: rest) e) (other : List Char) :
    FaultBehind (front ++ '{' :: other) e := by
  rw [faultBehind_iff, candidate_append_brace] at h ⊢
  cases hfront : candidate (front ++ ['{']) with
  | literal =>
    rw [hfront] at h
    rcases h with ⟨h, -⟩ | ⟨inner, after, found, h, -, -⟩
    · exact absurd h (by simp [Candidate.before])
    · exact absurd h (by simp [Candidate.before])
  | unterminated =>
    have hmem : '{' ∈ front ++ ['{'] := List.mem_append_right _ List.mem_cons_self
    exact absurd ((candidate_eq_unterminated_iff.mp hfront).2 '{' hmem) (by decide)
  | closed inner after =>
    rw [hfront] at h
    rcases h with ⟨h, -⟩ | ⟨inner', after', found, h, hread, he⟩
    · exact absurd h (by simp [Candidate.before])
    · obtain ⟨rfl, -⟩ := Candidate.closed.inj h
      exact Or.inr ⟨inner, after ++ other, found, rfl, hread, he⟩

/-- A tag holds no fault. -/
theorem faultless_of_readTag {tag : List Char} (h : Path.readTag tag = .ok path) :
    Faultless tag :=
  (cutOf_of_scanSegments tag (scan_eq_ok_iff.mp (scan_of_readTag h))).2

/-- **The text in front of the first fault is not to blame.**  With a tag without fault in place of
the first one at fault, the text is cut up. -/
theorem exists_scan_append_tag {tag : List Char} (h : FirstFault text before body e)
    (htag : Path.readTag tag = .ok path) : ∃ segments, scan (before ++ tag) = .ok segments := by
  obtain ⟨inner, rfl, -⟩ := readTag_eq_ok_iff.mp htag
  cases hscan : scan (before ++ '{' :: (inner ++ ['}'])) with
  | ok segments => exact ⟨segments, rfl⟩
  | error found =>
    obtain ⟨outer, behind, e', hfirst, -⟩ := scan_eq_error_iff.mp hscan
    have hfaultless := faultless_of_readTag htag
    -- the fault is neither in the tag nor, as it would have been there before, in front of it
    rcases List.append_eq_append_iff.mp hfirst.text_eq with ⟨gap, -, hgap⟩ | ⟨gap, hbefore, hgap⟩
    · exact absurd hfirst.fault (hfaultless gap behind e' hgap)
    · cases gap with
      | nil => exact absurd hfirst.fault (hfaultless [] behind e' hgap.symm)
      | cons c gap =>
        obtain ⟨rfl, rfl⟩ := List.cons.inj hgap
        have htext : text = outer ++ '{' :: (gap ++ '{' :: body) := by
          rw [h.text_eq, hbefore, List.append_assoc, List.cons_append]
        have hle := h.leftmost _ _ _ htext (faultBehind_append_brace hfirst.fault body)
        rw [hbefore, List.length_append, List.length_cons] at hle
        omega

/-! ## The place of a fault -/

/-- **The fault behind a brace, in its place.**  A tag that never ends is at fault at its brace. -/
theorem exists_opened_of_faultBehind (h : FaultBehind body e) :
    ∃ opened rest, PointsAt e ('{' :: body) opened rest ∧ BeginsTag opened := by
  cases h with
  | unterminated hbegins hall =>
    obtain ⟨more, path, htag⟩ := beginsTag_brace
    exact ⟨[], '{' :: body, ⟨rfl, rfl, rfl⟩, '{' :: more, path, htag⟩
  | @malformed inner after found hbegins hall hends hread =>
    obtain ⟨gap, before, rest, rfl, hgap, hoffset, hfits, hbeginsPath⟩ := exists_place_of_read hread
    -- the tag begins in a name character
    obtain rfl : gap = [] := hgap.eq_nil_of_beginsIn (by
      cases hinner : gap ++ (before ++ rest) with
      | nil => rfl
      | cons c more =>
        rw [hinner] at hbegins
        exact Text.isBlank_of_isNameChar hbegins)
    refine ⟨'{' :: before, rest ++ '}' :: after, ⟨?_, ?_, ?_⟩, hbeginsPath.beginsTag⟩
    · simp only [List.nil_append, List.append_assoc, List.cons_append]
    · show 1 + found.offset = Char.utf8Size '{' + Text.utf8Size before
      rw [hoffset]
      rfl
    · exact (hfits.append_left ['{']).append_right after

/-! ## Both readers -/

/-- **Errors point at the first fault.**  When a bare path or a template is refused, the error tells
where: the offset is that of a character of the text or of its end, the error fits what stands there,
and what stands before it can be completed to a text that is read.  In a template that is the text
from the brace of the tag at fault, and the tag that completes it stands well behind the text in
front of the brace. -/
theorem errors_point_at_first_fault (text : List Char) (e : TagError) :
    (Path.read text = .error e → ∃ before rest, PointsAt e text before rest ∧
      ∃ more path, Path.read (before ++ more) = .ok path) ∧
    (scan text = .error e → ∃ front opened rest, PointsAt e text (front ++ opened) rest ∧
      (∃ body found, FirstFault text front body found) ∧
      ∃ more path segments, Path.readTag (opened ++ more) = .ok path ∧
        scan (front ++ (opened ++ more)) = .ok segments) := by
  constructor
  · intro h
    obtain ⟨gap, before, rest, rfl, hgap, hoffset, hfits, more, root, steps, hspells⟩ :=
      exists_place_of_read h
    refine ⟨gap ++ before, rest, ⟨(List.append_assoc _ _ _).symm, hoffset, hfits.append_left gap⟩,
      more, ⟨root, steps⟩, read_eq_ok_iff.mpr (readPath_eq_ok_iff.mpr ?_)⟩
    refine ⟨gap, before ++ more, [], ?_, hgap, blanks_nil, hspells⟩
    rw [List.append_assoc, List.append_nil]
  · intro h
    obtain ⟨front, body, found, hfirst, rfl⟩ := scan_eq_error_iff.mp h
    obtain ⟨opened, rest, hpoints, more, path, htag⟩ := exists_opened_of_faultBehind hfirst.fault
    obtain ⟨segments, hscan⟩ := exists_scan_append_tag hfirst htag
    refine ⟨front, opened, rest, ⟨?_, ?_, hpoints.fits.append_left front⟩, ⟨body, found, hfirst⟩,
      more, path, segments, htag, hscan⟩
    · rw [hfirst.text_eq, hpoints.text_eq, List.append_assoc]
    · rw [Text.utf8Size_append, ← hpoints.offset]

/-- An index that is no number, in a bare path, and an index of zeros, in a template with a letter
of two bytes in front of the tag. -/
theorem errors_point_at_first_fault_of_index :
    (∃ before rest, PointsAt ⟨13, .invalidIndex "é"⟩ "user . dogs: é".toList before rest ∧
      ∃ more path, Path.read (before ++ more) = .ok path) ∧
    ∃ front opened rest,
      PointsAt ⟨14, .nonPositiveIndex⟩ "é \x7buser.dogs:00\x7d".toList (front ++ opened) rest ∧
      (∃ body found, FirstFault "é \x7buser.dogs:00\x7d".toList front body found) ∧
      ∃ more path segments, Path.readTag (opened ++ more) = .ok path ∧
        scan (front ++ (opened ++ more)) = .ok segments := by
  have hread : Path.read "user . dogs: é".toList = .error ⟨13, .invalidIndex "é"⟩ := by
    decide +kernel
  have hscan : scan "é \x7buser.dogs:00\x7d".toList = .error ⟨14, .nonPositiveIndex⟩ := by
    decide +kernel
  exact ⟨(errors_point_at_first_fault _ _).1 hread, (errors_point_at_first_fault _ _).2 hscan⟩

end TagTemplates
