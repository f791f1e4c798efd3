import Mathlib.Data.List.Chain
import Mathlib.Data.List.TakeWhile
import TagTemplates.Proofs.Attempts
import TagTemplates.Proofs.Tag.Faults
import TagTemplates.Template.Segment

/-!
# Scanning loses nothing and finds every tag

A scan goes over a text once and looks ahead at each opening brace.  What it leaves behind is told
by the text alone: the segments make up the text, tags are read as tags, and no tag is left inside
literal text.  A scan fails at the leftmost brace that begins a tag and cannot end it.

* `Segment.isText`, `CutOf`: what the segments of a text are.
* `FaultBehind`, `FirstFault`: a brace that begins a tag at fault, and the leftmost one.
* `candidate_eq_closed_iff`, `candidate_eq_unterminated_iff`: what an opening brace is taken for.
* `cutOf_of_scanSegments`, `leftmost_of_scanSegments`: the two ends of a scan.
* `Untagged`, `Untagged.scanSegments_eq`: a text in which no brace begins a tag.
* `scan_lossless`: both ends together, for any text.
-/

namespace TagTemplates

/-! ## Segments of a text -/

/-- Whether a segment is literal text. -/
def Segment.isText : Segment → Bool
  | text _ => true
  | tag _ _ => false

/-- A text that holds no tag, anywhere in it. -/
def Tagless (chars : List Char) : Prop :=
  ∀ piece, piece <:+: chars → ∀ path, Path.readTag piece ≠ .ok path

/-- The segments that a text is cut into: together they are the text, no two texts are neighbours,
no text is empty or holds a tag, and every tag is the tag of its path. -/
structure CutOf (text : List Char) (segments : List Segment) : Prop where
  source : segments.flatMap Segment.source = text
  isChain : segments.IsChain fun a b => ¬(a.isText = true ∧ b.isText = true)
  ne_nil : ∀ chars, Segment.text chars ∈ segments → chars ≠ []
  tagless : ∀ chars, Segment.text chars ∈ segments → Tagless chars
  tag : ∀ path source, Segment.tag path source ∈ segments → Path.readTag source = .ok path

/-! ## Faults of a text -/

/-- The brace in front of this text begins a tag at fault, and this is the fault, with its offset
counted from the brace: either nothing but characters of tags follow up to the end, or they end in
a closing brace without a blank in front of it and are no path. -/
inductive FaultBehind : List Char → TagError → Prop where
  | unterminated {run : List Char} : Text.beginsIn Text.isNameChar run = true →
      (∀ c ∈ run, isTagChar c = true) → FaultBehind run ⟨0, .unterminated⟩
  | malformed {inner after : List Char} {e : TagError} :
      Text.beginsIn Text.isNameChar inner = true → (∀ c ∈ inner, isTagChar c = true) →
      Text.endsIn Text.isBlank inner = false → Path.read inner = .error e →
      FaultBehind (inner ++ '}' :: after) ⟨1 + e.offset, e.kind⟩

/-- The leftmost brace of a text that begins a tag at fault. -/
structure FirstFault (text before body : List Char) (e : TagError) : Prop where
  text_eq : text = before ++ '{' :: body
  fault : FaultBehind body e
  leftmost : ∀ before' body' e', text = before' ++ '{' :: body' → FaultBehind body' e' →
    before.length ≤ before'.length

/-! ## What an opening brace is taken for -/

variable {body inner after : List Char} {path : Path}

theorem isTagChar_of_isNameChar {c : Char} (h : Text.isNameChar c = true) : isTagChar c = true := by
  rw [isTagChar, h]
  rfl

theorem isTagChar_of_isBlank {c : Char} (h : Text.isBlank c = true) : isTagChar c = true := by
  rw [isTagChar, h, Bool.or_true]

/-- The first character of a class is not lost with the rest of the text. -/
theorem beginsIn_takeWhile (body : List Char) :
    Text.beginsIn Text.isNameChar (body.takeWhile isTagChar) = Text.beginsIn Text.isNameChar body := by
  cases body with
  | nil => rfl
  | cons c rest =>
    rw [List.takeWhile_cons]
    by_cases h : isTagChar c = true
    · rw [if_pos h]
      rfl
    · rw [if_neg h]
      refine (Bool.eq_false_iff.mpr fun hname => h ?_).symm
      exact isTagChar_of_isNameChar hname

theorem candidate_eq_unterminated_iff : candidate body = .unterminated ↔
    Text.beginsIn Text.isNameChar body = true ∧ ∀ c ∈ body, isTagChar c = true := by
  rw [← List.dropWhile_eq_nil_iff, candidate]
  by_cases hbegins : Text.beginsIn Text.isNameChar body = true
  · rw [if_pos hbegins]
    cases hrest : body.dropWhile isTagChar with
    | nil => simp [hbegins]
    | cons c after =>
      simp only [hbegins]
      split
      · simp
      · simp
  · rw [if_neg hbegins]
    simp [hbegins]

theorem candidate_append (hbegins : Text.beginsIn Text.isNameChar inner = true)
    (hall : ∀ c ∈ inner, isTagChar c = true) (hends : Text.endsIn Text.isBlank inner = false)
    (after : List Char) : candidate (inner ++ '}' :: after) = .closed inner after := by
  have hstop : ('}' :: after).head?.any isTagChar = false := rfl
  have hrun := Text.takeWhile_append_of_head? hall hstop
  have hrest := Text.dropWhile_append_of_head? hall hstop
  have hfront : Text.beginsIn Text.isNameChar (inner ++ '}' :: after) = true := by
    rw [← beginsIn_takeWhile, hrun]
    exact hbegins
  rw [candidate, if_pos hfront, hrest, hrun]
  exact if_pos ⟨rfl, hends⟩

theorem candidate_eq_closed_iff : candidate body = .closed inner after ↔
    body = inner ++ '}' :: after ∧ Text.beginsIn Text.isNameChar inner = true ∧
      (∀ c ∈ inner, isTagChar c = true) ∧ Text.endsIn Text.isBlank inner = false := by
  constructor
  · intro h
    unfold candidate at h
    split at h
    · rename_i hbegins
      split at h
      · exact absurd h (by simp)
      · rename_i c rest hrest
        simp only at h
        split at h
        · rename_i hclosed
          obtain ⟨rfl, hends⟩ := hclosed
          obtain ⟨rfl, rfl⟩ := Candidate.closed.inj h
          refine ⟨?_, ?_, List.all_eq_true.mp List.all_takeWhile, hends⟩
          · rw [← hrest, List.takeWhile_append_dropWhile]
          · rw [beginsIn_takeWhile]
            exact hbegins
        · exact absurd h (by simp)
    · exact absurd h (by simp)
  · rintro ⟨rfl, hbegins, hall, hends⟩
    exact candidate_append hbegins hall hends after

/-- The fault behind a brace is the one for which the brace is taken. -/
theorem faultBehind_iff {e : TagError} : FaultBehind body e ↔
    (candidate body = .unterminated ∧ e = ⟨0, .unterminated⟩) ∨
      ∃ inner after found, candidate body = .closed inner after ∧
        Path.read inner = .error found ∧ e = ⟨1 + found.offset, found.kind⟩ := by
  constructor
  · intro h
    cases h with
    | unterminated hbegins hall =>
      exact Or.inl ⟨candidate_eq_unterminated_iff.mpr ⟨hbegins, hall⟩, rfl⟩
    | @malformed inner after found hbegins hall hends hread =>
      exact Or.inr ⟨inner, after, found, candidate_append hbegins hall hends after, hread, rfl⟩
  · rintro (⟨h, rfl⟩ | ⟨inner, after, found, h, hread, rfl⟩)
    · obtain ⟨hbegins, hall⟩ := candidate_eq_unterminated_iff.mp h
      exact FaultBehind.unterminated hbegins hall
    · obtain ⟨rfl, hbegins, hall, hends⟩ := candidate_eq_closed_iff.mp h
      exact FaultBehind.malformed hbegins hall hends hread

/-! ## Tags -/

/-- What spells a step is made of characters of tags. -/
theorem Step.SpelledBy.all_isTagChar {s : Step} {written : List Char} (h : s.SpelledBy written) :
    ∀ c ∈ written, isTagChar c = true := by
  obtain ⟨hname, hindex⟩ := h
  refine List.forall_mem_append.mpr ⟨fun c hc => isTagChar_of_isNameChar (hname.all c hc), ?_⟩
  cases hindex with
  | absent => exact fun c hc => absurd hc List.not_mem_nil
  | written hbefore hafter hdigits hpos hmax =>
    refine List.forall_mem_append.mpr ⟨fun c hc => isTagChar_of_isBlank (hbefore c hc), ?_⟩
    refine List.forall_mem_cons.mpr ⟨rfl, List.forall_mem_append.mpr ⟨?_, ?_⟩⟩
    · exact fun c hc => isTagChar_of_isBlank (hafter c hc)
    · exact fun c hc => isTagChar_of_isNameChar (Text.isNameChar_of_isDigit (hdigits.all c hc))

theorem SpellsSteps.all_isTagChar {root : Step} {steps : List Step} {written : List Char}
    (h : SpellsSteps root steps written) : ∀ c ∈ written, isTagChar c = true := by
  induction h with
  | last hs => exact hs.all_isTagChar
  | dot hs hbefore hafter _ ih =>
    refine List.forall_mem_append.mpr ⟨hs.all_isTagChar, List.forall_mem_append.mpr ⟨?_, ?_⟩⟩
    · exact fun c hc => isTagChar_of_isBlank (hbefore c hc)
    · refine List.forall_mem_cons.mpr ⟨rfl, List.forall_mem_append.mpr ⟨?_, ih⟩⟩
      exact fun c hc => isTagChar_of_isBlank (hafter c hc)

/-- A brace that begins a tag is taken for one. -/
theorem candidate_of_spelledBy (h : path.SpelledBy inner) (after : List Char) :
    candidate (inner ++ '}' :: after) = .closed inner after := by
  have hspells : SpellsSteps path.root path.rest inner := h
  obtain ⟨c, more, hcons, hc⟩ := hspells.exists_cons
  refine candidate_append ?_ hspells.all_isTagChar (Text.endsIn_isBlank hspells.endsIn) after
  rw [hcons]
  exact hc

/-- The text of a candidate is a tag as soon as it is a path. -/
theorem readTag_of_candidate (h : candidate body = .closed inner after)
    (hread : readPath inner = .ok path) : Path.readTag ('{' :: (inner ++ ['}'])) = .ok path := by
  obtain ⟨-, hbegins, -, hends⟩ := candidate_eq_closed_iff.mp h
  have hblank : Text.beginsIn Text.isBlank inner = false := by
    cases inner with
    | nil => rfl
    | cons c rest => exact Text.isBlank_of_isNameChar hbegins
  exact readTag_eq_ok_iff.mpr ⟨inner, rfl, spelledBy_of_readPath hread hblank hends⟩

/-! ## One more piece in front -/

/-- Nothing that is a tag begins with another character than a brace. -/
theorem Tagless.cons {c : Char} {chars : List Char} (h : Tagless chars)
    (hfront : ∀ piece, piece <+: c :: chars → ∀ path, Path.readTag piece ≠ .ok path) :
    Tagless (c :: chars) := by
  intro piece hpiece
  rcases List.infix_cons_iff.mp hpiece with hprefix | hinfix
  · exact hfront piece hprefix
  · exact h piece hinfix

/-- No tag begins at a brace that is literal text. -/
theorem readTag_ne_ok_of_prefix {c : Char} {chars : List Char} (hchars : chars <+: body)
    (hc : c = '{' → candidate body = .literal) {piece : List Char} (hpiece : piece <+: c :: chars)
    (path : Path) : Path.readTag piece ≠ .ok path := by
  intro hread
  obtain ⟨inner, rfl, hspelled⟩ := readTag_eq_ok_iff.mp hread
  obtain ⟨rfl, hinner⟩ := List.cons_prefix_cons.mp hpiece
  obtain ⟨after, rfl⟩ := hinner.trans hchars
  rw [List.append_assoc] at hc
  exact absurd ((hc rfl).symm.trans (candidate_of_spelledBy hspelled after)) (by simp)

/-- A literal character begins a text, which goes on with the text behind it if there is any. -/
theorem CutOf.exists_consChar {segments : List Segment} (h : CutOf body segments) (c : Char) :
    ∃ chars rest, Segment.consChar c segments = .text (c :: chars) :: rest ∧
      chars ++ rest.flatMap Segment.source = body ∧ Tagless chars ∧ (∀ s ∈ rest, s ∈ segments) ∧
      (Segment.text (c :: chars) :: rest).IsChain fun a b => ¬(a.isText = true ∧ b.isText = true) := by
  cases segments with
  | nil =>
    refine ⟨[], [], rfl, h.source, ?_, fun s hs => hs, List.isChain_singleton _⟩
    intro piece hpiece path
    obtain rfl := List.infix_nil.mp hpiece
    exact fun hread => absurd hread (by simp [Path.readTag, inBraces?])
  | cons first rest =>
    obtain ⟨hnext, hchain⟩ := List.isChain_cons.mp h.isChain
    cases first with
    | text chars =>
      exact ⟨chars, rest, rfl, h.source, h.tagless chars List.mem_cons_self,
        fun s hs => List.mem_cons_of_mem _ hs, List.isChain_cons.mpr ⟨hnext, hchain⟩⟩
    | tag path source =>
      refine ⟨[], _, rfl, h.source, ?_, fun s hs => hs, List.isChain_cons.mpr ⟨?_, h.isChain⟩⟩
      · intro piece hpiece path
        obtain rfl := List.infix_nil.mp hpiece
        exact fun hread => absurd hread (by simp [Path.readTag, inBraces?])
      · intro s hs
        obtain rfl := Option.some_inj.mp hs
        exact fun hboth => absurd hboth.2 (by simp [Segment.isText])

/-- **A literal character in front of a text.** -/
theorem CutOf.consChar {c : Char} {segments : List Segment} (h : CutOf body segments)
    (hc : c = '{' → candidate body = .literal) :
    CutOf (c :: body) (Segment.consChar c segments) := by
  obtain ⟨chars, rest, hcons, hbody, htagless, hrest, hchain⟩ := h.exists_consChar c
  rw [hcons]
  refine ⟨?_, hchain, ?_, ?_, ?_⟩
  · rw [List.flatMap_cons, ← hbody]
    rfl
  · intro found hmem
    rcases List.mem_cons.mp hmem with heq | hmem
    · rw [Segment.text.inj heq]
      exact List.cons_ne_nil _ _
    · exact h.ne_nil found (hrest _ hmem)
  · intro found hmem
    rcases List.mem_cons.mp hmem with heq | hmem
    · rw [Segment.text.inj heq]
      have hchars : chars <+: body := ⟨_, hbody⟩
      exact htagless.cons fun piece hpiece => readTag_ne_ok_of_prefix hchars hc hpiece
    · exact h.tagless found (hrest _ hmem)
  · intro path source hmem
    rcases List.mem_cons.mp hmem with heq | hmem
    · exact absurd heq (by simp)
    · exact h.tag path source (hrest _ hmem)

/-- **A tag in front of a text.** -/
theorem CutOf.consTag {segments : List Segment} (h : CutOf after segments)
    (hcandidate : candidate body = .closed inner after) (hread : readPath inner = .ok path) :
    CutOf ('{' :: body) (.tag path ('{' :: inner ++ ['}']) :: segments) := by
  obtain ⟨rfl, -, -, -⟩ := candidate_eq_closed_iff.mp hcandidate
  refine ⟨?_, List.isChain_cons.mpr ⟨fun s _ hboth => ?_, h.isChain⟩, ?_, ?_, ?_⟩
  · rw [List.flatMap_cons, h.source]
    simp [Segment.source]
  · exact absurd hboth.1 (by simp [Segment.isText])
  · intro chars hmem
    exact h.ne_nil chars ((List.mem_cons.mp hmem).resolve_left (by simp))
  · intro chars hmem
    exact h.tagless chars ((List.mem_cons.mp hmem).resolve_left (by simp))
  · intro found source hmem
    rcases List.mem_cons.mp hmem with heq | hmem
    · obtain ⟨rfl, rfl⟩ := Segment.tag.inj heq
      exact readTag_of_candidate hcandidate hread
    · exact h.tag found source hmem

/-! ## Faults behind one more piece -/

/-- No brace of this front of a text begins a tag at fault. -/
def FaultlessFront (front rest : List Char) : Prop :=
  ∀ before body e, front ++ rest = before ++ '{' :: body → FaultBehind body e →
    front.length ≤ before.length

/-- A brace at fault behind a faultless front is one of the rest. -/
theorem FaultlessFront.exists_append {front rest before : List Char} {e : TagError}
    (h : FaultlessFront front rest) (htext : front ++ rest = before ++ '{' :: body)
    (hfault : FaultBehind body e) :
    ∃ before', before = front ++ before' ∧ rest = before' ++ '{' :: body := by
  have hlength := h before body e htext hfault
  have hprefix : front <+: before :=
    List.prefix_of_prefix_length_le ⟨rest, htext⟩ (List.prefix_append before _) hlength
  obtain ⟨before', rfl⟩ := hprefix
  rw [List.append_assoc, List.append_cancel_left_eq] at htext
  exact ⟨before', rfl, htext⟩

/-- The leftmost fault of a text is the leftmost one behind a faultless front. -/
theorem FirstFault.append {front rest before : List Char} {e : TagError}
    (h : FirstFault rest before body e) (hfront : FaultlessFront front rest) :
    FirstFault (front ++ rest) (front ++ before) body e := by
  refine ⟨by rw [h.text_eq, List.append_assoc], h.fault, fun found body' e' htext hfault => ?_⟩
  obtain ⟨before', rfl, hrest⟩ := hfront.exists_append htext hfault
  have hle := h.leftmost before' body' e' hrest hfault
  rw [List.length_append, List.length_append]
  omega

/-- A character that is no brace, or literal text, is faultless. -/
theorem faultlessFront_char {c : Char} (hc : c = '{' → candidate body = .literal) :
    FaultlessFront [c] body := by
  intro before found e htext hfault
  cases before with
  | cons d before => simp
  | nil =>
    obtain ⟨rfl, rfl⟩ := List.cons.inj htext
    rcases faultBehind_iff.mp hfault with ⟨hopen, -⟩ | ⟨inner, after, e', hclosed, -, -⟩
    · exact absurd ((hc rfl).symm.trans hopen) (by simp)
    · exact absurd ((hc rfl).symm.trans hclosed) (by simp)

/-- A tag is faultless. -/
theorem faultlessFront_tag (hcandidate : candidate (inner ++ '}' :: after) = .closed inner after)
    (hread : readPath inner = .ok path) : FaultlessFront ('{' :: (inner ++ ['}'])) after := by
  obtain ⟨-, -, hall, -⟩ := candidate_eq_closed_iff.mp hcandidate
  intro before found e htext hfault
  cases before with
  | nil =>
    -- the brace of the tag itself: its text is a path
    have hfound : (inner ++ ['}']) ++ after = found := (List.cons.inj htext).2
    rw [← hfound, List.append_assoc, List.singleton_append] at hfault
    rcases faultBehind_iff.mp hfault with ⟨hopen, -⟩ | ⟨inner', after', e', hclosed, herror, -⟩
    · exact absurd (hcandidate.symm.trans hopen) (by simp)
    · obtain ⟨rfl, rfl⟩ := Candidate.closed.inj (hcandidate.symm.trans hclosed)
      exact absurd ((read_eq_ok_iff.mpr hread).symm.trans herror) (by simp)
  | cons d before =>
    -- there is no brace inside the tag
    have htail : (inner ++ ['}']) ++ after = before ++ '{' :: found := (List.cons.inj htext).2
    by_contra hshort
    have hlength : before.length < (inner ++ ['}']).length := by
      simp only [List.length_cons] at hshort
      omega
    have hbrace : '{' ∈ inner ++ ['}'] := by
      have hget : ((inner ++ ['}']) ++ after)[before.length]? = some '{' := by
        rw [htail, List.getElem?_append_right (Nat.le_refl _), Nat.sub_self]
        rfl
      rw [List.getElem?_append_left hlength] at hget
      exact List.mem_of_getElem? hget
    rcases List.mem_append.mp hbrace with hmem | hmem
    · exact absurd (hall '{' hmem) (by decide)
    · exact absurd (List.mem_singleton.mp hmem) (by decide)

/-- No brace of this text begins a tag at fault. -/
def Faultless (text : List Char) : Prop :=
  ∀ before body e, text = before ++ '{' :: body → ¬FaultBehind body e

theorem faultless_nil : Faultless [] := by
  intro before body e htext
  exact absurd htext (by simp)

theorem Faultless.append {front rest : List Char} (h : Faultless rest)
    (hfront : FaultlessFront front rest) : Faultless (front ++ rest) := by
  intro before body e htext hfault
  obtain ⟨before', -, hrest⟩ := hfront.exists_append htext hfault
  exact h before' body e hrest hfault

/-! ## The scan -/

/-- The scan at a brace, without the proofs that it ends. -/
theorem scanSegments_brace (body : List Char) : scanSegments ('{' :: body) =
    match candidate body with
    | .literal => (scanSegments body).map (Segment.consChar '{')
    | .unterminated => .error ⟨.unterminated, '{' :: body⟩
    | .closed inner after =>
      match readPath inner with
      | .error f => .error (f.before ('}' :: after))
      | .ok path => (scanSegments after).map (Segment.tag path ('{' :: inner ++ ['}']) :: ·) := by
  rw [scanSegments, if_pos rfl]
  split
  · next hc => exact hc ▸ rfl
  · next hc => exact hc ▸ rfl
  · next inner after hc => exact hc ▸ rfl

theorem scanSegments_literal (hc : candidate body = .literal) :
    scanSegments ('{' :: body) = (scanSegments body).map (Segment.consChar '{') := by
  rw [scanSegments_brace, hc]

theorem scanSegments_closed (hc : candidate body = .closed inner after)
    (hpath : readPath inner = .ok path) : scanSegments ('{' :: body) =
      (scanSegments after).map (Segment.tag path ('{' :: inner ++ ['}']) :: ·) := by
  rw [scanSegments_brace, hc]
  simp only [hpath]

/-- The scan at any other character. -/
theorem scanSegments_of_ne {c : Char} (hc : c ≠ '{') (body : List Char) :
    scanSegments (c :: body) = (scanSegments body).map (Segment.consChar c) := by
  rw [scanSegments, if_neg hc]

/-- **A scan that succeeds cuts up the text, and nothing in it is at fault.**  By induction on the
recursion of the scan. -/
theorem cutOf_of_scanSegments (text : List Char) : ∀ {segments : List Segment},
    scanSegments text = .ok segments → CutOf text segments ∧ Faultless text := by
  fun_induction scanSegments text with
  | case1 =>
    intro segments h
    obtain rfl := Except.ok.inj h
    exact ⟨⟨rfl, List.isChain_nil, by simp, by simp, by simp⟩, faultless_nil⟩
  | case2 body hc ih =>
    intro segments h
    obtain ⟨rest, hrest, rfl⟩ := map_eq_ok_iff.mp h
    obtain ⟨hcut, hfaultless⟩ := ih hrest
    exact ⟨hcut.consChar fun _ => hc, hfaultless.append (faultlessFront_char fun _ => hc)⟩
  | case3 body hc =>
    intro segments h
    exact absurd h (by simp)
  | case4 body inner after hc f hf =>
    intro segments h
    exact absurd h (by simp)
  | case5 body inner after hc path hpath ih =>
    intro segments h
    obtain ⟨rest, hrest, rfl⟩ := map_eq_ok_iff.mp h
    obtain ⟨hcut, hfaultless⟩ := ih hrest
    refine ⟨hcut.consTag hc hpath, ?_⟩
    obtain ⟨rfl, -, -, -⟩ := candidate_eq_closed_iff.mp hc
    have htext := hfaultless.append (faultlessFront_tag hc hpath)
    rwa [List.cons_append, List.append_assoc, List.singleton_append] at htext
  | case6 c body hne ih =>
    intro segments h
    obtain ⟨rest, hrest, rfl⟩ := map_eq_ok_iff.mp h
    obtain ⟨hcut, hfaultless⟩ := ih hrest
    exact ⟨hcut.consChar fun hc => absurd hc hne,
      hfaultless.append (faultlessFront_char fun hc => absurd hc hne)⟩

/-- This is the fault of the leftmost brace at fault, and the text from there on is what it keeps. -/
def Fault.Leftmost (f : Fault) (text : List Char) : Prop :=
  ∃ before body e, FirstFault text before body e ∧ f.kind = e.kind ∧
    Text.utf8Size before + e.offset + Text.utf8Size f.rest = Text.utf8Size text

/-- The leftmost fault is the same one behind a faultless front. -/
theorem Fault.Leftmost.append {f : Fault} {front rest : List Char} (h : f.Leftmost rest)
    (hfront : FaultlessFront front rest) : f.Leftmost (front ++ rest) := by
  obtain ⟨before, body, e, hfirst, hkind, hsize⟩ := h
  refine ⟨front ++ before, body, e, hfirst.append hfront, hkind, ?_⟩
  rw [Text.utf8Size_append, Text.utf8Size_append]
  omega

/-- A brace at fault at the beginning of a text is the leftmost one. -/
theorem firstFault_nil {e : TagError} (h : FaultBehind body e) :
    FirstFault ('{' :: body) [] body e :=
  ⟨rfl, h, fun _ _ _ _ _ => Nat.zero_le _⟩

/-- **A scan that fails meets the leftmost fault.**  By induction on the recursion of the scan. -/
theorem leftmost_of_scanSegments (text : List Char) : ∀ {f : Fault},
    scanSegments text = .error f → f.Leftmost text := by
  fun_induction scanSegments text with
  | case1 =>
    intro f h
    exact absurd h (by simp)
  | case2 body hc ih =>
    intro f h
    exact (ih (map_eq_error_iff.mp h)).append (faultlessFront_char fun _ => hc)
  | case3 body hc =>
    intro f h
    obtain rfl := Except.error.inj h
    obtain ⟨hbegins, hall⟩ := candidate_eq_unterminated_iff.mp hc
    exact ⟨[], body, _, firstFault_nil (.unterminated hbegins hall), rfl, Nat.zero_add _⟩
  | case4 body inner after hc g hg =>
    intro f h
    obtain rfl := Except.error.inj h
    obtain ⟨rfl, hbegins, hall, hends⟩ := candidate_eq_closed_iff.mp hc
    have hread : Path.read inner = .error (g.at inner) := by
      rw [Path.read, hg]
    obtain ⟨g', hg', -, hsize⟩ := read_eq_error_iff.mp hread
    obtain rfl := Except.error.inj (hg.symm.trans hg')
    refine ⟨[], _, _, firstFault_nil (.malformed hbegins hall hends hread), rfl, ?_⟩
    have hbrace : Char.utf8Size '{' = 1 := rfl
    simp only [Fault.before, Text.utf8Size_nil, Text.utf8Size_cons, Text.utf8Size_append, hbrace]
    omega
  | case5 body inner after hc path hpath ih =>
    intro f h
    obtain ⟨rfl, -, -, -⟩ := candidate_eq_closed_iff.mp hc
    have htext := (ih (map_eq_error_iff.mp h)).append (faultlessFront_tag hc hpath)
    rwa [List.cons_append, List.append_assoc, List.singleton_append] at htext
  | case6 c body hne ih =>
    intro f h
    exact (ih (map_eq_error_iff.mp h)).append (faultlessFront_char fun hc => absurd hc hne)

/-- A tag is scanned as itself. -/
theorem scan_of_readTag {tag : List Char} (h : Path.readTag tag = .ok path) :
    scan tag = .ok [.tag path tag] := by
  obtain ⟨inner, rfl, hspelled⟩ := readTag_eq_ok_iff.mp h
  have hcandidate : candidate (inner ++ ['}']) = .closed inner [] :=
    candidate_of_spelledBy hspelled []
  have hread : readPath inner = .ok path := by
    refine readPath_eq_ok_iff.mpr ⟨[], inner, [], ?_, blanks_nil, blanks_nil, hspelled⟩
    rw [List.nil_append, List.append_nil]
  have hscan : scanSegments ('{' :: (inner ++ ['}'])) = .ok [.tag path ('{' :: inner ++ ['}'])] := by
    rw [scanSegments_closed hcandidate hread, scanSegments]
    rfl
  rw [scan, hscan]
  rfl

/-! ## Braces that begin no tag -/

/-- Every brace of a text is literal text. -/
def Untagged (text : List Char) : Prop :=
  ∀ body, '{' :: body <:+ text → candidate body = .literal

theorem untagged_of_notMem {text : List Char} (h : '{' ∉ text) : Untagged text :=
  fun _ hbody => absurd (hbody.subset List.mem_cons_self) h

theorem untagged_cons {c : Char} {text : List Char} :
    Untagged (c :: text) ↔ (c = '{' → candidate text = .literal) ∧ Untagged text := by
  constructor
  · intro h
    refine ⟨?_, fun body hbody => h body (hbody.trans (List.suffix_cons c text))⟩
    rintro rfl
    exact h text List.suffix_rfl
  · rintro ⟨hfirst, htext⟩ body hbody
    rcases List.suffix_cons_iff.mp hbody with heq | hsuffix
    · obtain ⟨rfl, rfl⟩ := List.cons.inj heq
      exact hfirst rfl
    · exact htext body hsuffix

/-- Text without a brace in front of others. -/
theorem Untagged.append_of_notMem {rest : List Char} (h : Untagged rest) :
    ∀ {front : List Char}, '{' ∉ front → Untagged (front ++ rest)
  | [], _ => h
  | c :: front, hfront => by
    obtain ⟨hc, hfront⟩ := not_or.mp fun hor => hfront (List.mem_cons.mpr hor)
    exact untagged_cons.mpr ⟨fun heq => absurd heq.symm hc, h.append_of_notMem hfront⟩

/-- **A text whose braces are all literal text is one segment.** -/
theorem Untagged.scanSegments_eq : ∀ {c : Char} {text : List Char}, Untagged (c :: text) →
    scanSegments (c :: text) = .ok [.text (c :: text)]
  | c, text, h => by
    obtain ⟨hfirst, htext⟩ := untagged_cons.mp h
    have hcons : scanSegments (c :: text) = (scanSegments text).map (Segment.consChar c) := by
      by_cases hc : c = '{'
      · subst hc
        exact scanSegments_literal (hfirst rfl)
      · exact scanSegments_of_ne hc text
    rw [hcons]
    cases text with
    | nil =>
      rw [scanSegments]
      rfl
    | cons d text =>
      rw [htext.scanSegments_eq]
      rfl

/-! ## Both ends of a scan -/

theorem FaultBehind.unique {e e' : TagError} (h : FaultBehind body e) (h' : FaultBehind body e') :
    e = e' := by
  rcases faultBehind_iff.mp h with ⟨hc, rfl⟩ | ⟨inner, after, found, hc, hread, rfl⟩
  · rcases faultBehind_iff.mp h' with ⟨-, rfl⟩ | ⟨inner, after, found, hc', -, -⟩
    · rfl
    · exact absurd (hc.symm.trans hc') (by simp)
  · rcases faultBehind_iff.mp h' with ⟨hc', -⟩ | ⟨inner', after', found', hc', hread', rfl⟩
    · exact absurd (hc.symm.trans hc') (by simp)
    · obtain ⟨rfl, rfl⟩ := Candidate.closed.inj (hc.symm.trans hc')
      rw [Except.error.inj (hread.symm.trans hread')]

/-- There is one leftmost brace at fault, and one fault of it. -/
theorem FirstFault.unique {text before before' body' : List Char} {e e' : TagError}
    (h : FirstFault text before body e) (h' : FirstFault text before' body' e') :
    before = before' ∧ e = e' := by
  have hle := h.leftmost before' body' e' h'.text_eq h'.fault
  have hge := h'.leftmost before body e h.text_eq h.fault
  have hlength : before.length = before'.length := Nat.le_antisymm hle hge
  obtain ⟨rfl, hbody⟩ := List.append_inj (h.text_eq.symm.trans h'.text_eq) hlength
  obtain rfl : body = body' := (List.cons.inj hbody).2
  exact ⟨rfl, h.fault.unique h'.fault⟩

theorem scan_eq_ok_iff {text : List Char} {segments : List Segment} :
    scan text = .ok segments ↔ scanSegments text = .ok segments := by
  rw [scan]
  cases scanSegments text with
  | error f => simp
  | ok found => simp

/-- The error of a scan is the leftmost fault, at its place in the text. -/
theorem scan_eq_error_iff {text : List Char} {e : TagError} : scan text = .error e ↔
    ∃ before body found, FirstFault text before body found ∧
      e = ⟨Text.utf8Size before + found.offset, found.kind⟩ := by
  constructor
  · intro h
    cases hscan : scanSegments text with
    | ok segments =>
      exact absurd (h.symm.trans (scan_eq_ok_iff.mpr hscan)) (by simp)
    | error f =>
      obtain ⟨before, body, found, hfirst, hkind, hsize⟩ := leftmost_of_scanSegments text hscan
      refine ⟨before, body, found, hfirst, ?_⟩
      rw [scan, hscan] at h
      rw [← Except.error.inj h, Fault.at, hkind, TagError.mk.injEq]
      exact ⟨by omega, rfl⟩
  · rintro ⟨before, body, found, hfirst, rfl⟩
    cases hscan : scanSegments text with
    | ok segments =>
      obtain ⟨-, hfaultless⟩ := cutOf_of_scanSegments text hscan
      exact absurd hfirst.fault (hfaultless before body found hfirst.text_eq)
    | error f =>
      obtain ⟨before', body', found', hfirst', hkind, hsize⟩ := leftmost_of_scanSegments text hscan
      obtain ⟨rfl, rfl⟩ := hfirst.unique hfirst'
      rw [scan, hscan]
      refine congrArg Except.error ?_
      rw [Fault.at, hkind, TagError.mk.injEq]
      exact ⟨by omega, rfl⟩

/-- **Scanning is lossless and finds every tag.**  The segments of a text are what it is cut into;
a scan fails exactly when some brace begins a tag at fault, and with the fault of the leftmost such
brace. -/
theorem scan_lossless (text : List Char) :
    (∀ segments, scan text = .ok segments → CutOf text segments) ∧
      ((∃ e, scan text = .error e) ↔
        ∃ before body e, text = before ++ '{' :: body ∧ FaultBehind body e) ∧
      ∀ e, scan text = .error e ↔
        ∃ before body found, FirstFault text before body found ∧
          e = ⟨Text.utf8Size before + found.offset, found.kind⟩ := by
  refine ⟨fun segments h => (cutOf_of_scanSegments text (scan_eq_ok_iff.mp h)).1, ⟨?_, ?_⟩,
    fun e => scan_eq_error_iff⟩
  · rintro ⟨e, h⟩
    obtain ⟨before, body, found, hfirst, -⟩ := scan_eq_error_iff.mp h
    exact ⟨before, body, found, hfirst.text_eq, hfirst.fault⟩
  · rintro ⟨before, body, e, htext, hfault⟩
    cases hscan : scan text with
    | error found => exact ⟨found, rfl⟩
    | ok segments =>
      obtain ⟨-, hfaultless⟩ := cutOf_of_scanSegments text (scan_eq_ok_iff.mp hscan)
      exact absurd hfault (hfaultless before body e htext)

/-- A brace with a blank behind it is literal text. -/
example : scan "{ a } {b}".toList =
    .ok [.text "{ a } ".toList, .tag ⟨⟨"b", none⟩, []⟩ "{b}".toList] := by decide +kernel

end TagTemplates
