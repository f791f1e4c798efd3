import TagTemplates.Proofs.Registry.Completion
import TagTemplates.Proofs.Session.Rendering
import TagTemplates.Proofs.Template.Scanning

/-!
# Valid paths and their tags

A path that completion calls valid resolves, and its endpoint has a text.  That does not make its
tag a look-up: the walk may cross a list without an index on its way, which completion lets pass and
expansion does not, or a blank next to a brace may keep the tag from being one.

* `touchesBlank`, `scan_of_touchesBlank`: a path in braces that is literal text.
* `resolveTag_of_valid`: what completion promises of a valid path.
* `expand_of_valid`: what the tag of a valid path is expanded to.
* `unresolved_of_valid`: a valid path whose tag names nothing.
-/

namespace TagTemplates

/-- Whether a blank stands at one of the ends of a text. -/
def touchesBlank (cs : List Char) : Bool :=
  Text.beginsIn Text.isBlank cs || Text.endsIn Text.isBlank cs

variable {fragment : List Char} {path : Path}

/-! ## Paths in braces -/

/-- A bare path is made of characters of tags. -/
theorem isTagChar_of_readPath (h : readPath fragment = .ok path) :
    ∀ c ∈ fragment, isTagChar c = true := by
  obtain ⟨before, written, after, rfl, hbefore, hafter, hspelled⟩ := readPath_eq_ok_iff.mp h
  have hspells : SpellsSteps path.root path.rest written := hspelled
  refine List.forall_mem_append.mpr ⟨fun c hc => isTagChar_of_isBlank (hbefore c hc), ?_⟩
  refine List.forall_mem_append.mpr ⟨hspells.all_isTagChar, fun c hc => ?_⟩
  exact isTagChar_of_isBlank (hafter c hc)

/-- Without blanks at its ends a bare path in braces is its tag. -/
theorem readTag_of_readPath (h : readPath fragment = .ok path)
    (hblank : touchesBlank fragment = false) :
    Path.readTag ('{' :: (fragment ++ ['}'])) = .ok path := by
  obtain ⟨hbegins, hends⟩ := Bool.or_eq_false_iff.mp hblank
  exact readTag_eq_ok_iff.mpr ⟨fragment, rfl, spelledBy_of_readPath h hbegins hends⟩

/-- With a blank at one of its ends it is none. -/
theorem candidate_of_touchesBlank (h : readPath fragment = .ok path)
    (hblank : touchesBlank fragment = true) : candidate (fragment ++ ['}']) = .literal := by
  have hall := isTagChar_of_readPath h
  cases hcandidate : candidate (fragment ++ ['}']) with
  | literal => rfl
  | unterminated =>
    obtain ⟨-, hopen⟩ := candidate_eq_unterminated_iff.mp hcandidate
    exact absurd (hopen '}' (List.mem_append_right _ List.mem_cons_self)) (by decide)
  | closed inner after =>
    obtain ⟨hbody, hbegins, hinner, hends⟩ := candidate_eq_closed_iff.mp hcandidate
    -- both texts end where the first character comes that no tag has
    have hstop : ∀ more, ('}' :: more).head?.any isTagChar = false := fun _ => rfl
    obtain rfl : fragment = inner := by
      rw [← Text.takeWhile_append_of_head? hall (hstop []), hbody,
        Text.takeWhile_append_of_head? hinner (hstop after)]
    rw [touchesBlank, hends, Bool.or_false] at hblank
    cases fragment with
    | nil => exact absurd hblank (by simp [Text.beginsIn])
    | cons c rest =>
      have hname : Text.isNameChar c = true := hbegins
      exact absurd (hname.symm.trans (Text.isNameChar_of_isBlank hblank)) (by simp)

/-- **A path in braces that a blank touches is literal text.** -/
theorem scan_of_touchesBlank (h : readPath fragment = .ok path)
    (hblank : touchesBlank fragment = true) :
    scan ('{' :: (fragment ++ ['}'])) = .ok [.text ('{' :: (fragment ++ ['}']))] := by
  have hbraces : '{' ∉ fragment ++ ['}'] := by
    intro hmem
    rcases List.mem_append.mp hmem with hmem | hmem
    · exact absurd (isTagChar_of_readPath h '{' hmem) (by decide)
    · exact absurd (List.mem_singleton.mp hmem) (by decide)
  have huntagged : Untagged ('{' :: (fragment ++ ['}'])) := untagged_cons.mpr
    ⟨fun _ => candidate_of_touchesBlank h hblank, untagged_of_notMem hbraces⟩
  exact scan_eq_ok_iff.mpr huntagged.scanSegments_eq

namespace Session

variable {session : Session}

/-! ## Valid paths -/

/-- **A valid path resolves, and its endpoint has a text.** -/
theorem resolveTag_of_valid (hread : readPath fragment = .ok path)
    (hvalid : (session.complete fragment).status = .valid) :
    ∃ r, session.registry.resolveTag path = .ok r ∧ r.endpoint.displays = true := by
  obtain ⟨first, rest, r, hsteps, -, ⟨found, hfound, hresolve⟩, -, hdisplays⟩ :=
    (Registry.status_complete_iff .all fragment).mp hvalid
  rw [← hsteps, readPartial_of_readPath hread, Path.ofSteps?_steps] at hfound
  obtain rfl := Option.some_inj.mp hfound
  exact ⟨r, hresolve, hdisplays⟩

/-- How a single tag is expanded. -/
theorem expandWith_of_scan_tag {template : List Char} (h : scan template = .ok [.tag path template])
    (fallback : Fallback) : session.expandWith fallback template =
      (quoteLiteral (fallback.resolve path)).map (screen session.registry path).write := by
  rw [expandWith, TagTemplates.expandWith, h]
  simp only [expandSegments, expandSegment]
  cases quoteLiteral (fallback.resolve path) with
  | error e => rfl
  | ok literal => simp [Except.map]

/-- **What the tag of a valid path is expanded to.**  The path resolves to an endpoint that has a
text.  Its tag is a look-up of the canonical path, unless the walk crosses a list without an index:
then it names nothing, and only the fallback is left.  A path that a blank touches is no tag between
braces, and stays as it is. -/
theorem expand_of_valid (hread : Path.read fragment = .ok path)
    (hvalid : (session.complete fragment).status = .valid) :
    ∃ r, session.registry.resolveTag path = .ok r ∧ r.endpoint.displays = true ∧
      screen session.registry path =
        (if r.throughList then .unresolved else .lookup r.canonical) ∧
      ∀ fallback, session.expandWith fallback ('{' :: (fragment ++ ['}'])) =
        if touchesBlank fragment then .ok ('{' :: (fragment ++ ['}']))
        else (quoteLiteral (fallback.resolve path)).map (screen session.registry path).write := by
  have hpath : readPath fragment = .ok path := read_eq_ok_iff.mp hread
  obtain ⟨r, hresolve, hdisplays⟩ := resolveTag_of_valid hpath hvalid
  refine ⟨r, hresolve, hdisplays, screen_of_resolveTag hresolve, fun fallback => ?_⟩
  by_cases hblank : touchesBlank fragment = true
  · rw [if_pos hblank, expandWith, TagTemplates.expandWith, scan_of_touchesBlank hpath hblank]
    simp [expandSegments, expandSegment]
  · rw [if_neg hblank]
    exact expandWith_of_scan_tag
      (scan_of_readTag (readTag_of_readPath hpath (by simpa using hblank))) fallback

/-- The name of a user's first dog is valid, and its tag is a look-up. -/
theorem expand_of_valid_dogs :
    (kennelSession.complete "user.dogs:1.name".toList).status = .valid ∧
      kennelSession.expandWith default "\x7buser.dogs:1.name\x7d".toList =
        .ok "\x7b\x7buser.dogs[0].name | fallback: ''\x7d\x7d".toList := by
  have hread : Path.read "user.dogs:1.name".toList =
      .ok ⟨⟨"user", none⟩, [⟨"dogs", some 0⟩, ⟨"name", none⟩]⟩ := by
    decide +kernel
  have hvalid : (kennelSession.complete "user.dogs:1.name".toList).status = .valid := by
    refine (Registry.status_complete_iff .all _).mpr ⟨⟨"user", none⟩,
      [⟨"dogs", some 0⟩, ⟨"name", none⟩], ⟨Registry.userSchema, [⟨"dogs", some 0⟩, ⟨"name", none⟩],
        .field Registry.dogSchema ⟨"name", .scalar⟩, false⟩, ?_, ?_, ⟨_, rfl, ?_⟩, ?_, rfl⟩ <;>
      decide +kernel
  obtain ⟨r, -, -, -, hexpand⟩ := expand_of_valid hread hvalid
  refine ⟨hvalid, (hexpand default).trans ?_⟩
  decide +kernel

/-- The names of a user's dogs are valid too, but their tag names nothing: the list of the dogs is
crossed without an index. -/
theorem unresolved_of_valid :
    Path.read "user.dogs.name".toList =
        .ok ⟨⟨"user", none⟩, [⟨"dogs", none⟩, ⟨"name", none⟩]⟩ ∧
      (kennelSession.complete "user.dogs.name".toList).status = .valid ∧
      screen kennelSession.registry ⟨⟨"user", none⟩, [⟨"dogs", none⟩, ⟨"name", none⟩]⟩ =
        .unresolved ∧
      kennelSession.expand "\x7buser.dogs.name\x7d".toList = .ok "\x7b\x7b '' \x7d\x7d".toList := by
  refine ⟨by decide +kernel, ?_, by decide +kernel, by decide +kernel⟩
  refine (Registry.status_complete_iff .all _).mpr ⟨⟨"user", none⟩,
    [⟨"dogs", none⟩, ⟨"name", none⟩], ⟨Registry.userSchema, [⟨"dogs", none⟩, ⟨"name", none⟩],
      .field Registry.dogSchema ⟨"name", .scalar⟩, true⟩, ?_, ?_, ⟨_, rfl, ?_⟩, ?_, rfl⟩ <;>
    decide +kernel

end Session

end TagTemplates
