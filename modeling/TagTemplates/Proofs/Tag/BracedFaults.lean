import TagTemplates.Proofs.Tag.LastingFaults

/-!
# The fault of a braced text

A tag is refused for a blank next to one of its braces before anything else is looked at.  So a
blank in front of the closing brace is reported even where the text in front of it is at fault
already, and either blank is reported as a space.  In every other case the error points at the first
fault.

* `readTag_braced`: the checks of a braced text, in their order.
* `beginsTag_iff`: the texts that can be completed to a tag.
* `HidesFault`, `TabAtBrace`: the two ways in which the error misses the fault.
* `PointsInto`, `fault_of_braced`: what the error of a braced text points at.
* `readTag_of_hidden_fault`: a text in which it misses in both ways.
-/

namespace TagTemplates

variable {inner front : List Char} {e : TagError} {path : Path}

/-- A braced text: blanks next to the braces are refused first, then the path is read. -/
theorem readTag_braced (inner : List Char) : Path.readTag ('{' :: (inner ++ ['}'])) =
    if Text.beginsIn Text.isBlank inner then .error ⟨1, .unexpected ' '⟩
    else if Text.endsIn Text.isBlank inner then .error ⟨Text.utf8Size inner, .unexpected ' '⟩
    else (Path.read inner).mapError fun e => ⟨1 + e.offset, e.kind⟩ := by
  unfold Path.readTag Path.read
  rw [inBraces?_eq_some_iff.mpr rfl]
  cases hread : readPath inner with
  | ok path =>
    simp only [hread]
    rfl
  | error f =>
    have hle := utf8Size_le_of_isSuffix (rest_isSuffix_of_readPath hread)
    have hat : (f.before ['}']).at ('{' :: (inner ++ ['}'])) =
        ⟨1 + (f.at inner).offset, (f.at inner).kind⟩ := by
      have hbrace : Char.utf8Size '{' = 1 := rfl
      simp only [Fault.at, Fault.before, Text.utf8Size_cons, Text.utf8Size_append,
        TagError.mk.injEq, and_true, hbrace]
      omega
    simp only [hread, hat]
    rfl

/-! ## Texts that begin a tag -/

/-- A text behind a brace begins a tag when it begins a path, or is the rest of a tag. -/
theorem beginsTag_iff : BeginsTag ('{' :: front) ↔
    (∃ path, Path.readTag ('{' :: front) = .ok path) ∨ BeginsPath front := by
  constructor
  · rintro ⟨more, path, hread⟩
    rcases List.eq_nil_or_concat' more with rfl | ⟨behind, last, rfl⟩
    · rw [List.append_nil] at hread
      exact Or.inl ⟨path, hread⟩
    · obtain ⟨inner, hinner, hspelled⟩ := readTag_eq_ok_iff.mp hread
      rw [List.cons_append, ← List.append_assoc] at hinner
      obtain ⟨rfl, -⟩ := List.append_inj' (List.cons.inj hinner).2 rfl
      exact Or.inr ⟨behind, path.root, path.rest, hspelled⟩
  · rintro (⟨path, hread⟩ | hbegins)
    · exact ⟨[], path, by rw [List.append_nil]; exact hread⟩
    · exact hbegins.beginsTag

/-! ## The error of a braced text -/

/-- The blank in front of the closing brace stands behind a fault: the text in front of the blank is
no tag, and the reader of paths meets a fault in it that lasts. -/
def HidesFault (inner : List Char) : Prop :=
  ∃ front b, inner = front ++ [b] ∧ Text.isBlank b = true ∧
    Text.beginsIn Text.isBlank inner = false ∧ (∀ path, Path.readTag ('{' :: front) ≠ .ok path) ∧
    ∃ f, readSteps front = .error f ∧ f.Lasting

/-- The blank that is reported is a tab: one behind the opening brace, or else one in front of the
closing brace. -/
def TabAtBrace (inner : List Char) : Prop :=
  inner.head? = some '\t' ∨
    Text.beginsIn Text.isBlank inner = false ∧ inner.getLast? = some '\t'

/-- A blank is a space unless it is a tab. -/
theorem eq_space_iff {b : Char} (h : Text.isBlank b = true) : b = ' ' ↔ b ≠ '\t' := by
  rcases Bool.or_eq_true_iff.mp h with hb | hb
  · rw [beq_iff_eq.mp hb]
    decide
  · rw [beq_iff_eq.mp hb]
    decide

theorem not_hidesFault_of_beginsIn (h : Text.beginsIn Text.isBlank inner = true) :
    ¬HidesFault inner := by
  rintro ⟨front, b, -, -, hbegins, -⟩
  exact absurd (h.symm.trans hbegins) (by simp)

theorem not_hidesFault_of_endsIn (h : Text.endsIn Text.isBlank inner = false) :
    ¬HidesFault inner := by
  rintro ⟨front, b, rfl, hb, -, -⟩
  rw [Text.endsIn, List.getLast?_concat] at h
  exact absurd (hb.symm.trans h) (by simp)

/-- What stands in front of a blank at the closing brace begins a tag unless the blank hides a
fault. -/
theorem beginsTag_iff_not_hidesFault {b : Char} (hb : Text.isBlank b = true)
    (hbegins : Text.beginsIn Text.isBlank (front ++ [b]) = false) :
    BeginsTag ('{' :: front) ↔ ¬HidesFault (front ++ [b]) := by
  have hfront : Text.beginsIn Text.isBlank front = false := by
    cases front with
    | nil => rfl
    | cons c front => exact hbegins
  rw [beginsTag_iff, beginsPath_iff hfront]
  constructor
  · rintro hor ⟨front', b', heq, -, -, hnotag, f, herror, hlasting⟩
    obtain ⟨rfl, -⟩ := List.append_inj' heq rfl
    rcases hor with ⟨path, htag⟩ | hmended
    · exact hnotag path htag
    · exact hmended f herror hlasting
  · intro h
    by_contra hor
    obtain ⟨hnotag, hlasts⟩ := not_or.mp hor
    refine hlasts fun f herror hlasting => h ⟨front, b, rfl, hb, hbegins, ?_, f, herror, hlasting⟩
    exact fun path htag => hnotag ⟨path, htag⟩

/-- The place in a braced text that an error is about.  What stands before it can be completed to a
tag, unless the blank that is reported hides a fault; and a character that is reported as unexpected
stands there, unless it is a tab next to a brace. -/
structure PointsInto (e : TagError) (inner before rest : List Char) : Prop where
  text_eq : '{' :: (inner ++ ['}']) = before ++ rest
  offset : e.offset = Text.utf8Size before
  begins : BeginsTag before ↔ ¬HidesFault inner
  stands : ∀ c, e.kind = .unexpected c → (rest.head? = some c ↔ ¬TabAtBrace inner)

theorem utf8Size_of_isBlank {b : Char} (h : Text.isBlank b = true) : b.utf8Size = 1 := by
  rcases Bool.or_eq_true_iff.mp h with hb | hb
  · rw [beq_iff_eq.mp hb]
    rfl
  · rw [beq_iff_eq.mp hb]
    rfl

/-- A blank behind the opening brace. -/
theorem pointsInto_opening (hbegins : Text.beginsIn Text.isBlank inner = true) :
    PointsInto ⟨1, .unexpected ' '⟩ inner ['{'] (inner ++ ['}']) := by
  refine ⟨rfl, rfl, iff_of_true beginsTag_brace (not_hidesFault_of_beginsIn hbegins),
    fun c hc => ?_⟩
  obtain rfl := TagFault.unexpected.inj hc
  cases inner with
  | nil => exact absurd hbegins (by decide)
  | cons b rest =>
    rw [TabAtBrace, hbegins]
    simpa using eq_space_iff hbegins

/-- A blank in front of the closing brace. -/
theorem pointsInto_closing {b : Char} (hb : Text.isBlank b = true)
    (hbegins : Text.beginsIn Text.isBlank (front ++ [b]) = false) :
    PointsInto ⟨Text.utf8Size (front ++ [b]), .unexpected ' '⟩ (front ++ [b]) ('{' :: front)
      [b, '}'] := by
  refine ⟨by simp, ?_, beginsTag_iff_not_hidesFault hb hbegins, fun c hc => ?_⟩
  · have hbrace : Char.utf8Size '{' = 1 := rfl
    simp only [Text.utf8Size_append, Text.utf8Size_cons, Text.utf8Size_nil,
      utf8Size_of_isBlank hb, hbrace]
    omega
  · obtain rfl := TagFault.unexpected.inj hc
    have hhead : (front ++ [b]).head? ≠ some '\t' := by
      intro hhead
      rw [Text.beginsIn, hhead] at hbegins
      exact absurd hbegins (by decide)
    rw [TabAtBrace, or_iff_right hhead, and_iff_right hbegins, List.getLast?_concat]
    simpa using eq_space_iff hb

/-- A fault of the path between the braces. -/
theorem exists_pointsInto_of_read (hbegins : Text.beginsIn Text.isBlank inner = false)
    (hends : Text.endsIn Text.isBlank inner = false) (hread : Path.read inner = .error e) :
    ∃ before rest, PointsInto ⟨1 + e.offset, e.kind⟩ inner before rest := by
  obtain ⟨gap, before, rest, rfl, hgap, hoffset, hfits, hbeginsPath⟩ := exists_place_of_read hread
  obtain rfl : gap = [] := hgap.eq_nil_of_beginsIn hbegins
  rw [List.nil_append] at hends hbegins hoffset
  refine ⟨'{' :: before, rest ++ ['}'], by simp, ?_,
    iff_of_true hbeginsPath.beginsTag (not_hidesFault_of_endsIn hends), fun c hc => ?_⟩
  · show 1 + e.offset = Char.utf8Size '{' + Text.utf8Size before
    rw [hoffset]
    rfl
  · have hkind : e.kind = .unexpected c := hc
    rw [hkind] at hfits
    refine iff_of_true (head?_append_of_some hfits _) ?_
    rintro (hhead | ⟨-, hlast⟩)
    · rw [List.nil_append] at hhead
      rw [Text.beginsIn, hhead] at hbegins
      exact absurd hbegins (by decide)
    · rw [List.nil_append] at hlast
      rw [Text.endsIn, hlast] at hends
      exact absurd hends (by decide)

/-- **What the error of a braced text points at**: a place of the text, by which check it may be. -/
theorem fault_of_braced (h : Path.readTag ('{' :: (inner ++ ['}'])) = .error e) :
    ∃ before rest, PointsInto e inner before rest := by
  rw [readTag_braced] at h
  split at h
  · rename_i hbegins
    obtain rfl := Except.error.inj h
    exact ⟨_, _, pointsInto_opening hbegins⟩
  · rename_i hbegins
    have hbegins : Text.beginsIn Text.isBlank inner = false := by simpa using hbegins
    split at h
    · rename_i hends
      obtain rfl := Except.error.inj h
      rcases List.eq_nil_or_concat' inner with rfl | ⟨front, b, rfl⟩
      · exact absurd hends (by decide)
      · exact ⟨_, _, pointsInto_closing (by simpa [Text.endsIn] using hends) hbegins⟩
    · rename_i hends
      cases hread : Path.read inner with
      | ok path =>
        rw [hread] at h
        exact absurd h (by simp [Except.mapError])
      | error found =>
        rw [hread] at h
        obtain rfl := Except.error.inj h
        exact exists_pointsInto_of_read hbegins (by simpa using hends) hread

/-- A tab in front of the closing brace, behind a name that is not expected. -/
theorem fault_of_braced_of_tab :
    Path.readTag ('{' :: ("a b\t".toList ++ ['}'])) = .error ⟨4, .unexpected ' '⟩ ∧
      ∃ before rest, PointsInto ⟨4, .unexpected ' '⟩ "a b\t".toList before rest := by
  have hread : Path.readTag ('{' :: ("a b\t".toList ++ ['}'])) = .error ⟨4, .unexpected ' '⟩ := by
    decide +kernel
  exact ⟨hread, fault_of_braced hread⟩

/-- **The error may miss the first fault in both ways.**  The name that is not expected stands in
front of the place that is reported, so that nothing completes the text there to a tag; and what
stands at this place is not the space that is reported but a tab. -/
theorem readTag_of_hidden_fault :
    Path.readTag ('{' :: ("a b\t".toList ++ ['}'])) = .error ⟨4, .unexpected ' '⟩ ∧
      '{' :: ("a b\t".toList ++ ['}']) = ('{' :: "a b".toList) ++ ['\t', '}'] ∧
      Text.utf8Size ('{' :: "a b".toList) = 4 ∧ ¬BeginsTag ('{' :: "a b".toList) := by
  refine ⟨by decide +kernel, by decide +kernel, by decide +kernel, ?_⟩
  rw [beginsTag_iff, beginsPath_iff (by decide +kernel)]
  have hfault : readSteps "a b".toList = .error ⟨.unexpected 'b', ['b']⟩ := by decide +kernel
  have hlasting : Fault.Lasting ⟨.unexpected 'b', ['b']⟩ :=
    ⟨List.cons_ne_nil _ _, fun h => absurd h.1 (by simp)⟩
  rintro (⟨path, htag⟩ | hmended)
  · have hopen : Path.readTag ('{' :: "a b".toList) = .error ⟨0, .missingBraces⟩ := by
      decide +kernel
    exact absurd (htag.symm.trans hopen) (by simp)
  · exact hmended _ hfault hlasting

end TagTemplates
