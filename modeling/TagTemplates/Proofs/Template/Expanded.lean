import TagTemplates.Proofs.Tag.RoundTrip
import TagTemplates.Proofs.Template.Chunks
import TagTemplates.Proofs.Template.Finality
import TagTemplates.Proofs.Template.Locality

/-!
# What expansion leaves behind

Expanded text is read again: by the pass that finalizes its outputs, and by whoever expands it once
more.  The first finds every tag in an output of its own, which is final because it ends in the
fallback filter with the fallback of the tag in quotes.  The second finds no tag: the two braces
that an expanded tag begins with are literal text, and they stand where the tag began, so the braces
in front of it are judged as before.

* `Segment.piece`, `piecesOf_expandSegments`: the pieces of an expanded template.
* `finalizeOutputs_expand`: they are final.
* `SameUpToBrace`: texts in front of which a brace is judged alike.
* `untagged_of_expandSegments`, `expandWith_expandWith`: no tag is left behind.
* `WithoutTags`, `expandWith_eq_self_iff`: the templates that stay as they are.
-/

namespace TagTemplates

open Liquid

variable {fallback : Fallback} {screen : Path → Expansion} {segments : List Segment}
  {template expanded : List Char} {path : Path}

/-! ## Tags of a template -/

/-- The path of a tag is made of names. -/
theorem Path.WellFormed.named (h : path.WellFormed) : path.Named := fun s hs =>
  (h s hs).run_name.all

theorem CutOf.named {source : List Char} (h : CutOf template segments)
    (htag : Segment.tag path source ∈ segments) : path.Named :=
  (wellFormed_iff_exists_readTag.mpr ⟨source, h.tag path source htag⟩).named

/-- A tag begins with a brace and a name character. -/
theorem exists_cons_of_readTag {source : List Char} (h : Path.readTag source = .ok path) :
    ∃ c rest, source = '{' :: c :: rest ∧ Text.isNameChar c = true := by
  obtain ⟨inner, rfl, hspelled⟩ := readTag_eq_ok_iff.mp h
  obtain ⟨c, rest, rfl, hc⟩ := SpellsSteps.exists_cons hspelled
  exact ⟨c, rest ++ ['}'], rfl, hc⟩

/-- A tag is expanded when its fallback can be put in quotes. -/
theorem expandSegment_tag_eq_ok_iff {source : List Char} :
    expandSegment fallback screen (.tag path source) = .ok expanded ↔
      Quotable (fallback.resolve path).toList ∧
        expanded = (screen path).write (quotedText (fallback.resolve path).toList) := by
  rw [expandSegment]
  cases hliteral : quoteLiteral (fallback.resolve path) with
  | error e =>
    refine ⟨fun h => absurd h (by simp), fun h => ?_⟩
    exact absurd (hliteral.symm.trans (quoteLiteral_eq_ok h.1)) (by simp)
  | ok literal =>
    obtain ⟨hquotable, rfl⟩ := quoteLiteral_eq_ok_iff.mp hliteral
    show Except.ok _ = Except.ok _ ↔ _
    rw [Except.ok.injEq]
    exact ⟨fun h => ⟨hquotable, h.symm⟩, fun h => h.2.symm⟩

/-! ## Expanded tags are final -/

/-- The piece that a segment is expanded to when its tag is looked up. -/
def Segment.piece (fallback : Fallback) : Segment → Piece
  | .text chars => .plain chars
  | .tag path _ => .output ((Expansion.lookup path).body (fallback.resolve path).toList)

theorem shaped_plain_of_notMem {chars : List Char} (hne : chars ≠ []) (h : '{' ∉ chars) :
    (Piece.plain chars).Shaped :=
  ⟨hne, fun hmarker => h (hmarker.subset List.mem_cons_self),
    fun hmarker => h (hmarker.subset List.mem_cons_self)⟩

theorem ends_plain_of_notMem {chars : List Char} (h : '{' ∉ chars) : (Piece.plain chars).Ends :=
  fun hlast => h (List.mem_of_getLast? hlast)

/-- The output of a look-up is closed by its own marker. -/
theorem closedBy_body_lookup {text : List Char} (h : Quotable text) (hpath : path.Named) :
    ClosedBy '}' '}' none ((Expansion.lookup path).body text) :=
  ((cutUnquoted_eq_some_iff rfl).mp (cutUnquoted_body_lookup h hpath [])).2

theorem flatMap_source_piece : ∀ {segments : List Segment} {expanded : List Char},
    expandSegments fallback .lookup segments = .ok expanded →
      (segments.map (Segment.piece fallback)).flatMap Piece.source = expanded
  | [], expanded, h => Except.ok.inj h
  | s :: rest, expanded, h => by
    obtain ⟨first, more, hfirst, hmore, rfl⟩ := expandSegments_cons_eq_ok.mp h
    rw [List.map_cons, List.flatMap_cons, flatMap_source_piece hmore]
    refine congrArg (· ++ more) ?_
    cases s with
    | text chars => exact Except.ok.inj hfirst
    | tag path source =>
      obtain ⟨-, rfl⟩ := expandSegment_tag_eq_ok_iff.mp hfirst
      rw [write_lookup]
      rfl

theorem quotable_of_mem_expandSegments {source : List Char} : ∀ {segments : List Segment}
    {expanded : List Char}, expandSegments fallback screen segments = .ok expanded →
      Segment.tag path source ∈ segments → Quotable (fallback.resolve path).toList
  | s :: rest, expanded, h, hmem => by
    obtain ⟨first, more, hfirst, hmore, rfl⟩ := expandSegments_cons_eq_ok.mp h
    rcases List.mem_cons.mp hmem with rfl | hrest
    · exact (expandSegment_tag_eq_ok_iff.mp hfirst).1
    · exact quotable_of_mem_expandSegments hmore hrest

/-- **Every segment is a piece of the expanded template**, when no text holds a brace. -/
theorem piecesOf_expandSegments (hcut : CutOf template segments)
    (hbraces : ∀ chars, Segment.text chars ∈ segments → '{' ∉ chars)
    (h : expandSegments fallback .lookup segments = .ok expanded) :
    PiecesOf expanded (segments.map (Segment.piece fallback)) := by
  refine ⟨flatMap_source_piece h, ?_, ?_⟩
  · intro p hp
    obtain ⟨s, hs, rfl⟩ := List.mem_map.mp hp
    cases s with
    | text chars => exact shaped_plain_of_notMem (hcut.ne_nil chars hs) (hbraces chars hs)
    | tag path source =>
      exact closedBy_body_lookup (quotable_of_mem_expandSegments h hs) (hcut.named hs)
  · rw [List.isChain_map]
    refine hcut.isChain.imp_of_mem_imp fun s t hs ht hst => ⟨?_, fun hboth => hst ?_⟩
    · cases s with
      | text chars => exact ends_plain_of_notMem (hbraces chars hs)
      | tag path source => trivial
    · obtain ⟨hleft, hright⟩ := hboth
      cases s with
      | tag path source => exact absurd hleft (by simp [Segment.piece, Piece.isPlain])
      | text chars =>
        cases t with
        | tag path source => exact absurd hright (by simp [Segment.piece, Piece.isPlain])
        | text others => exact ⟨rfl, rfl⟩

/-- **Expanded tags are final.**  When the text of a template holds no opening brace, its segments
are the pieces of what it is expanded to, whatever the fallbacks hold.  Finalization keeps them all:
every tag shows its own default. -/
theorem finalizeOutputs_expand (hscan : scan template = .ok segments)
    (hbraces : ∀ chars, Segment.text chars ∈ segments → '{' ∉ chars)
    (h : expand fallback template = .ok expanded) :
    finalizeOutputs expanded = .ok expanded ∧
      PiecesOf expanded (segments.map (Segment.piece fallback)) ∧
      ∀ s ∈ segments, (s.piece fallback).finalize = s.piece fallback := by
  obtain ⟨hcut, -⟩ := cutOf_of_scanSegments template (scan_eq_ok_iff.mp hscan)
  obtain ⟨found, hfound, hsegments⟩ := expandWith_eq_ok_iff.mp h
  obtain rfl : segments = found := Except.ok.inj (hscan.symm.trans hfound)
  have hpieces := piecesOf_expandSegments hcut hbraces hsegments
  have hkeep : ∀ s ∈ segments, (s.piece fallback).finalize = s.piece fallback := by
    intro s hs
    cases s with
    | text chars => rfl
    | tag path source =>
      exact congrArg Piece.output (finalizeBody_body_lookup
        (quotable_of_mem_expandSegments hsegments hs) (hcut.named hs))
  refine ⟨?_, hpieces, hkeep⟩
  rw [finalizeOutputs_of_piecesOf hpieces, List.flatMap_map, ← hpieces.source, List.flatMap_map]
  exact congrArg Except.ok (List.flatMap_congr fun s hs => congrArg Piece.source (hkeep s hs))

/-- Fallbacks with markers, bars and dashes in them. -/
theorem finalizeOutputs_expand_of_markers :
    let template := "a {b}, {c:2.d}".toList
    let fallback := Fallback.literal "-\x7d\x7d | ' \x7b\x7b%\x7d"
    let expanded := "a \x7b\x7bb | fallback: \"-\x7d\x7d | ' \x7b\x7b%\x7d\"\x7d\x7d, ".toList ++
      "\x7b\x7bc[1].d | fallback: \"-\x7d\x7d | ' \x7b\x7b%\x7d\"\x7d\x7d".toList
    expand fallback template = .ok expanded ∧ finalizeOutputs expanded = .ok expanded := by
  intro template fallback expanded
  have hscan : scan template = .ok [.text "a ".toList, .tag ⟨⟨"b", none⟩, []⟩ "{b}".toList,
      .text ", ".toList, .tag ⟨⟨"c", some 1⟩, [⟨"d", none⟩]⟩ "{c:2.d}".toList] := by
    decide +kernel
  have hexpand : expand fallback template = .ok expanded := by decide +kernel
  refine ⟨hexpand, (finalizeOutputs_expand hscan (fun chars hmem => ?_) hexpand).1⟩
  have htexts : chars = "a ".toList ∨ chars = ", ".toList := by simpa using hmem
  rcases htexts with rfl | rfl
  · decide
  · decide

/-! ## No tag is left -/

/-- A text whose braces are all literal text stays as it is. -/
theorem Untagged.expandWith_eq {text : List Char} (h : Untagged text) :
    expandWith fallback screen text = .ok text := by
  rw [expandWith_eq_ok_iff]
  cases text with
  | nil =>
    refine ⟨[], scan_eq_ok_iff.mpr ?_, rfl⟩
    rw [scanSegments]
  | cons c text =>
    refine ⟨_, scan_eq_ok_iff.mpr h.scanSegments_eq, ?_⟩
    rw [expandSegments_text]
    exact congrArg Except.ok (List.append_nil (c :: text))

/-- Two texts that are the same up to a brace in both of them, or altogether. -/
def SameUpToBrace (text other : List Char) : Prop :=
  text = other ∨ ∃ front rest rest', text = front ++ '{' :: rest ∧ other = front ++ '{' :: rest'

theorem SameUpToBrace.cons {text other : List Char} (h : SameUpToBrace text other) (c : Char) :
    SameUpToBrace (c :: text) (c :: other) := by
  rcases h with rfl | ⟨front, rest, rest', rfl, rfl⟩
  · exact Or.inl rfl
  · exact Or.inr ⟨c :: front, rest, rest', rfl, rfl⟩

/-- **A brace that is literal text in front of one of them is so in front of the other.** -/
theorem SameUpToBrace.candidate_eq_literal {text other : List Char} (h : SameUpToBrace text other)
    (hliteral : candidate text = .literal) : candidate other = .literal := by
  rcases h with rfl | ⟨front, rest, rest', rfl, rfl⟩
  · exact hliteral
  · rw [candidate_append_brace] at hliteral ⊢
    cases hfront : candidate (front ++ ['{']) with
    | literal => rfl
    | unterminated =>
      rw [hfront] at hliteral
      exact absurd hliteral (by simp [Candidate.before])
    | closed inner after =>
      rw [hfront] at hliteral
      exact absurd hliteral (by simp [Candidate.before])

/-- A brace is literal text when something else than a closing brace ends the run of a tag. -/
theorem candidate_of_stop {run : List Char} {stop : Char} (hrun : '}' ∉ run)
    (hstop : isTagChar stop = false) (hclose : stop ≠ '}') (rest : List Char) :
    candidate (run ++ stop :: rest) = .literal := by
  have hbad : ¬isTagChar stop = true := by simp [hstop]
  cases hc : candidate (run ++ stop :: rest) with
  | literal => rfl
  | unterminated =>
    exact absurd ((candidate_eq_unterminated_iff.mp hc).2 stop (by simp)) hbad
  | closed inner after =>
    exfalso
    obtain ⟨heq, -, hall, -⟩ := candidate_eq_closed_iff.mp hc
    rcases List.append_eq_append_iff.mp heq with ⟨more, rfl, hmore⟩ | ⟨more, rfl, hmore⟩
    · cases more with
      | nil => exact hclose (List.cons.inj hmore).1
      | cons d more =>
        obtain rfl := (List.cons.inj hmore).1
        exact hbad (hall stop (by simp))
    · cases more with
      | nil => exact hclose (List.cons.inj hmore).1.symm
      | cons d more =>
        obtain rfl := (List.cons.inj hmore).1
        exact hrun (by simp)

/-- The path that is looked up is made of names. -/
def Expansion.Named : Expansion → Prop
  | lookup path => path.Named
  | unresolved => True

theorem brace_notMem_quotedText {text : List Char} (h : '{' ∉ text) : '{' ∉ quotedText text := by
  have hquote : quoteOf text ≠ '{' := fun heq =>
    absurd (heq ▸ isQuote_quoteOf text) (by decide)
  simp [quotedText, h, hquote.symm]

/-- What is not begun by a name character is no tag. -/
theorem candidate_of_not_beginsIn {body : List Char}
    (h : Text.beginsIn Text.isNameChar body = false) : candidate body = .literal :=
  if_neg (by simp [h])

theorem brace_notMem_expression (h : path.Named) : '{' ∉ path.expression := by
  intro hmem
  rcases mem_expression h '{' hmem with hname | hother
  · exact absurd hname (by decide)
  · exact absurd hother (by decide)

/-- **No brace of an expanded tag begins a tag.** -/
theorem untagged_write_append {e : Expansion} (he : e.Named) {text : List Char} (h : '{' ∉ text)
    {rest : List Char} (hrest : Untagged rest) : Untagged (e.write (quotedText text) ++ rest) := by
  have hquoted := brace_notMem_quotedText h
  suffices hinside : ∃ inside, e.write (quotedText text) = '{' :: '{' :: inside ∧ '{' ∉ inside ∧
      candidate (inside ++ rest) = .literal by
    obtain ⟨inside, hwrite, hbraces, hliteral⟩ := hinside
    rw [hwrite]
    refine untagged_cons.mpr ⟨fun _ => candidate_of_not_beginsIn rfl, untagged_cons.mpr ⟨?_, ?_⟩⟩
    · exact fun _ => hliteral
    · exact hrest.append_of_notMem hbraces
  cases e with
  | unresolved =>
    refine ⟨' ' :: quotedText text ++ [' ', '}', '}'], rfl, ?_, candidate_of_not_beginsIn rfl⟩
    simp [hquoted]
  | lookup path =>
    have hclose : '}' ∉ path.expression ++ [' '] := by
      have hexpression : '}' ∉ path.expression := fun hmem =>
        (unmarked_of_mem_expression he '}' hmem).1.2 rfl
      simp [hexpression]
    refine ⟨_, write_lookup path text, ?_, ?_⟩
    · have hfilter : '{' ∉ fallbackFilter.toList := by decide
      simp [Expansion.body, fallbackSource, brace_notMem_expression he, hfilter, hquoted]
    · have hliteral : candidate (path.expression ++ [' '] ++ '|' :: _) = .literal :=
        candidate_of_stop hclose rfl (by decide)
          (' ' :: (fallbackFilter.toList ++ ": ".toList ++ quotedText text ++ ['}', '}'] ++ rest))
      simpa [Expansion.body, fallbackSource] using hliteral

/-- **No tag is left behind.**  The expanded template is the same up to the brace of the first tag,
so the braces in front of a tag are literal text as before.  By induction on the recursion of the
scan. -/
theorem untagged_of_expandSegments (hscreen : ∀ path, path.Named → (screen path).Named)
    (hfallback : ∀ path, '{' ∉ (fallback.resolve path).toList) (template : List Char) :
    ∀ {segments : List Segment} {expanded : List Char}, scanSegments template = .ok segments →
      expandSegments fallback screen segments = .ok expanded →
        Untagged expanded ∧ SameUpToBrace template expanded := by
  fun_induction scanSegments template with
  | case1 =>
    intro segments expanded hscan h
    obtain rfl := Except.ok.inj hscan
    obtain rfl := Except.ok.inj h
    exact ⟨untagged_of_notMem List.not_mem_nil, Or.inl rfl⟩
  | case2 body hc ih =>
    intro segments expanded hscan h
    obtain ⟨rest, hrest, rfl⟩ := map_eq_ok_iff.mp hscan
    rw [expandSegments_consChar] at h
    obtain ⟨more, hmore, rfl⟩ := map_eq_ok_iff.mp h
    obtain ⟨huntagged, hsame⟩ := ih hrest hmore
    exact ⟨untagged_cons.mpr ⟨fun _ => hsame.candidate_eq_literal hc, huntagged⟩, hsame.cons '{'⟩
  | case3 body hc =>
    intro segments expanded hscan
    exact absurd hscan (by simp)
  | case4 body inner after hc f hf =>
    intro segments expanded hscan
    exact absurd hscan (by simp)
  | case5 body inner after hc path hpath ih =>
    intro segments expanded hscan h
    obtain ⟨rest, hrest, rfl⟩ := map_eq_ok_iff.mp hscan
    obtain ⟨first, more, hfirst, hmore, rfl⟩ := expandSegments_cons_eq_ok.mp h
    obtain ⟨-, rfl⟩ := expandSegment_tag_eq_ok_iff.mp hfirst
    have hnamed : path.Named :=
      (wellFormed_iff_exists_readTag.mpr ⟨_, readTag_of_candidate hc hpath⟩).named
    refine ⟨untagged_write_append (hscreen path hnamed) (hfallback path) (ih hrest hmore).1, ?_⟩
    cases screen path with
    | lookup found => exact Or.inr ⟨[], _, _, rfl, rfl⟩
    | unresolved => exact Or.inr ⟨[], _, _, rfl, rfl⟩
  | case6 c body hne ih =>
    intro segments expanded hscan h
    obtain ⟨rest, hrest, rfl⟩ := map_eq_ok_iff.mp hscan
    rw [expandSegments_consChar] at h
    obtain ⟨more, hmore, rfl⟩ := map_eq_ok_iff.mp h
    obtain ⟨huntagged, hsame⟩ := ih hrest hmore
    exact ⟨untagged_cons.mpr ⟨fun hc => absurd hc hne, huntagged⟩, hsame.cons c⟩

/-- **Expanding once more changes nothing**, when no fallback holds an opening brace. -/
theorem expandWith_expandWith (hscreen : ∀ path, path.Named → (screen path).Named)
    (hfallback : ∀ path, '{' ∉ (fallback.resolve path).toList)
    (h : expandWith fallback screen template = .ok expanded) :
    expandWith fallback screen expanded = .ok expanded := by
  obtain ⟨segments, hscan, hexpand⟩ := expandWith_eq_ok_iff.mp h
  exact (untagged_of_expandSegments hscreen hfallback template (scan_eq_ok_iff.mp hscan)
    hexpand).1.expandWith_eq

/-! ## Templates that stay as they are -/

/-- A template without a tag. -/
def WithoutTags (template : List Char) : Prop :=
  ∃ segments, scan template = .ok segments ∧ ∀ s ∈ segments, s.isText = true

/-- Text is expanded to itself. -/
theorem expandSegments_of_isText : ∀ {segments : List Segment}, (∀ s ∈ segments, s.isText = true) →
    expandSegments fallback screen segments = .ok (segments.flatMap Segment.source)
  | [], _ => rfl
  | s :: rest, h => by
    obtain ⟨hs, hrest⟩ := List.forall_mem_cons.mp h
    cases s with
    | tag path source => exact absurd hs (by simp [Segment.isText])
    | text chars =>
      rw [expandSegments_text, expandSegments_of_isText hrest]
      rfl

/-- What an expanded tag begins with is no beginning of a tag. -/
theorem exists_cons_write (e : Expansion) (literal : List Char) :
    ∃ rest, e.write literal = '{' :: '{' :: rest := by
  cases e with
  | lookup path => exact ⟨_, rfl⟩
  | unresolved => exact ⟨_, rfl⟩

/-- Segments that are expanded to themselves are all text. -/
theorem isText_of_expandSegments_eq : ∀ {segments : List Segment},
    (∀ path source, Segment.tag path source ∈ segments → Path.readTag source = .ok path) →
      expandSegments fallback screen segments = .ok (segments.flatMap Segment.source) →
        ∀ s ∈ segments, s.isText = true
  | [], _, _ => by simp
  | s :: rest, htags, h => by
    obtain ⟨first, more, hfirst, hmore, heq⟩ := expandSegments_cons_eq_ok.mp h
    rw [List.flatMap_cons] at heq
    cases s with
    | text chars =>
      obtain rfl : chars = first := Except.ok.inj hfirst
      obtain rfl : rest.flatMap Segment.source = more := List.append_cancel_left heq
      refine List.forall_mem_cons.mpr ⟨rfl, isText_of_expandSegments_eq (fun path source hmem => ?_)
        hmore⟩
      exact htags path source (List.mem_cons_of_mem _ hmem)
    | tag path source =>
      -- behind its brace the tag has a name character, and what it is expanded to another brace
      obtain ⟨c, inner, rfl, hc⟩ := exists_cons_of_readTag (htags path source List.mem_cons_self)
      obtain ⟨-, rfl⟩ := expandSegment_tag_eq_ok_iff.mp hfirst
      obtain ⟨inside, hwrite⟩ := exists_cons_write (screen path)
        (quotedText (fallback.resolve path).toList)
      rw [hwrite] at heq
      obtain ⟨rfl, -⟩ := List.cons.inj (List.cons.inj heq).2
      exact absurd hc (by decide)

/-- **A template stays as it is exactly when there is no tag in it.** -/
theorem expandWith_eq_self_iff :
    expandWith fallback screen template = .ok template ↔ WithoutTags template := by
  refine expandWith_eq_ok_iff.trans (exists_congr fun segments => and_congr_right fun hscan => ?_)
  obtain ⟨hcut, -⟩ := cutOf_of_scanSegments template (scan_eq_ok_iff.mp hscan)
  constructor
  · intro h
    rw [← hcut.source] at h
    exact isText_of_expandSegments_eq hcut.tag h
  · intro htexts
    rw [expandSegments_of_isText htexts, hcut.source]

end TagTemplates
