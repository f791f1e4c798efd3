import TagTemplates.Proofs.Attempts
import TagTemplates.Proofs.Liquid.Elements
import TagTemplates.Proofs.Template.Finalizing
import TagTemplates.Template.Rendering

/-!
# The chunks of an expanded template

Expansion, finalization and the reader of the template language are run one after another.  For a
template whose text holds no opening brace they amount to one chunk for each segment: the text
itself, the look-up of a path with the fallback as its default, or the fallback alone.

* `quoteOf`, `quoteLiteral_eq_ok`: how a fallback text is put in quotes.
* `Expansion.chunk`, `Segment.chunk`: the chunk of a tag and of a segment.
* `Expansion.sound_chunk_lookup`, `Expansion.broken_chunk_lookup`: when this chunk can be read.
* `finalizeOutputs_expandSegments`: expansion and finalization lead to the chunks.
* `readTemplate_of_scan`: what is read after them.
-/

namespace TagTemplates

open Liquid

/-- The quotes in which a text is written. -/
def quoteOf (text : List Char) : Char := if '\'' ∈ text then '"' else '\''

/-- One kind of quotes does not occur in a text. -/
def Quotable (text : List Char) : Prop := '\'' ∉ text ∨ '"' ∉ text

instance (text : List Char) : Decidable (Quotable text) :=
  inferInstanceAs (Decidable ('\'' ∉ text ∨ '"' ∉ text))

theorem isQuote_quoteOf (text : List Char) : isQuote (quoteOf text) = true := by
  rw [quoteOf]
  split
  · rfl
  · rfl

theorem quoteOf_notMem {text : List Char} (h : Quotable text) : quoteOf text ∉ text := by
  rw [quoteOf]
  by_cases hsingle : '\'' ∈ text
  · rw [if_pos hsingle]
    exact h.resolve_left fun hnot => hnot hsingle
  · rw [if_neg hsingle]
    exact hsingle

/-- The text in its quotes. -/
def quotedText (text : List Char) : List Char := quoteOf text :: text ++ [quoteOf text]

theorem quoteLiteral_eq_ok {text : String} (h : Quotable text.toList) :
    quoteLiteral text = .ok (quotedText text.toList) := by
  rw [quoteLiteral, quotedText, quoteOf]
  by_cases hsingle : '\'' ∈ text.toList
  · have hdouble : '"' ∉ text.toList := h.resolve_left fun hnot => hnot hsingle
    rw [if_neg (not_not_intro hsingle), if_pos hdouble, if_pos hsingle]
  · rw [if_pos hsingle, if_neg hsingle]

theorem quoteLiteral_eq_ok_iff {text : String} {literal : List Char} :
    quoteLiteral text = .ok literal ↔ Quotable text.toList ∧ literal = quotedText text.toList := by
  by_cases h : Quotable text.toList
  · rw [quoteLiteral_eq_ok h, Except.ok.injEq]
    exact ⟨fun heq => ⟨h, heq.symm⟩, fun heq => heq.2.symm⟩
  · obtain ⟨hsingle, hdouble⟩ := not_or.mp h
    rw [quoteLiteral, if_neg hsingle, if_neg hdouble]
    exact ⟨fun herror => absurd herror (by simp), fun hok => absurd hok.1 h⟩

/-! ## The chunk of a tag -/

/-- The fallback filter with a text. -/
def fallbackWith (text : List Char) : Liquid.Filter Expression :=
  .fallback (some (.literal (.ofText (String.ofList text))))

/-- What a tag is read as after its expansion with a fallback text. -/
def Expansion.chain (text : List Char) : Expansion → Chain
  | lookup path =>
    ⟨.lookup path.root.name (bracketIndices path.root.index ++ path.rest.flatMap stepIndices),
      [fallbackWith text]⟩
  | unresolved => ⟨.literal (.ofText (String.ofList text)), [fallbackWith []]⟩

/-- The inside of the output of a tag after finalization. -/
def Expansion.body (text : List Char) : Expansion → List Char
  | lookup path => path.expression ++ fallbackSource (quotedText text)
  | unresolved => ' ' :: quotedText text ++ (fallbackSource ['\'', '\''] ++ [' '])

/-- The chunk of a tag that is expanded with a fallback text. -/
def Expansion.chunk (text : List Char) (e : Expansion) : Chunk :=
  .output (e.body text) (e.chain text)

theorem ofCalls?_fallbackCall [Library] (entry : Expression) (text : List Char) :
    Chain.ofCalls? ⟨entry, [fallbackCall text]⟩ = some ⟨entry, [fallbackWith text]⟩ := rfl

/-- An output is read when its calls are, up to its closing marker. -/
theorem readOutput_of_readCalls {body rest after : List Char} {calls : Calls}
    (hhyphen : body.head? ≠ some '-')
    (hcalls : readCalls (skipGap (body ++ '}' :: '}' :: after)) = some (calls, rest)) :
    readOutput ('{' :: '{' :: (body ++ '}' :: '}' :: after)) =
      (readClosing outputClosing (skipGap rest)).map fun after' =>
        (.output calls (readBetween ('{' :: '{' :: (body ++ '}' :: '}' :: after)) after'),
          after') := by
  have hopening : readOpening outputOpening ('{' :: '{' :: (body ++ '}' :: '}' :: after)) =
      some (body ++ '}' :: '}' :: after) := by
    have htrim : readWord (outputOpening ++ "-")
        (skipGap ('{' :: '{' :: (body ++ '}' :: '}' :: after))) = none := by
      refine readWord_eq_none fun hprefix => ?_
      exact (not_prefix_of_opensOutput (opensOutput_source hhyphen after)).1 hprefix
    rw [readOpening, htrim]
    exact readWord_append outputOpening _
  rw [readOutput, hopening]
  show (readCalls (skipGap (body ++ '}' :: '}' :: after)) >>= _) = _
  rw [hcalls]
  show (readClosing outputClosing (skipGap rest) >>= _) = _
  cases readClosing outputClosing (skipGap rest) with
  | none => rfl
  | some after' => rfl

theorem readClosing_closing (after : List Char) :
    readClosing outputClosing ('}' :: '}' :: after) = some after := by
  have htrim : readWord ("-" ++ outputClosing) ('}' :: '}' :: after) = none := by
    refine readWord_eq_none fun hprefix => ?_
    exact absurd (List.cons_prefix_cons.mp hprefix).1 (by decide)
  rw [readClosing, htrim]
  exact readWord_append outputClosing after

theorem readClosing_of_isNameChar {d : Char} (h : Text.isNameChar d = true) (more : List Char) :
    readClosing outputClosing (skipGap (d :: more)) = none := by
  have htrim : readWord ("-" ++ outputClosing) (d :: more) = none := by
    refine readWord_eq_none fun hprefix => ?_
    exact ne_of_isNameChar h rfl (List.cons_prefix_cons.mp hprefix).1.symm
  have hbare : readWord outputClosing (d :: more) = none := by
    refine readWord_eq_none fun hprefix => ?_
    exact ne_of_isNameChar h rfl (List.cons_prefix_cons.mp hprefix).1.symm
  rw [skipGap_of_isNameChar h, readClosing, htrim, hbare]
  rfl

theorem quotedText_append (text rest : List Char) :
    quotedText text ++ rest = quoteOf text :: (text ++ quoteOf text :: rest) := by
  rw [quotedText]
  simp only [List.cons_append, List.append_assoc, List.nil_append]

/-- **The fallback alone is read back.** -/
theorem Expansion.sound_chunk_unresolved [Library] {text : List Char} (h : Quotable text) :
    (Expansion.unresolved.chunk text).Sound := by
  have hhyphen : (Expansion.unresolved.body text).head? ≠ some '-' := by
    show some ' ' ≠ some '-'
    decide
  refine ⟨hhyphen, fun after => ?_⟩
  · have hq := isQuote_quoteOf text
    have hgap : skipGap (Expansion.unresolved.body text ++ '}' :: '}' :: after) =
        quotedText text ++ (fallbackSource ['\'', '\''] ++ ' ' :: '}' :: '}' :: after) := by
      have hsource : Expansion.unresolved.body text ++ '}' :: '}' :: after =
          ' ' :: (quotedText text ++
            (fallbackSource ['\'', '\''] ++ ' ' :: '}' :: '}' :: after)) := by
        rw [Expansion.body]
        simp only [List.cons_append, List.append_assoc, List.nil_append]
      rw [hsource, quotedText_append]
      rcases eq_of_isQuote hq with hq | hq
      · rw [hq]
        rfl
      · rw [hq]
        rfl
    have hentry : readValue (quotedText text ++
        (fallbackSource ['\'', '\''] ++ ' ' :: '}' :: '}' :: after)) =
          some (.literal (.ofText (String.ofList text)),
            fallbackSource ['\'', '\''] ++ ' ' :: '}' :: '}' :: after) := by
      rw [quotedText_append, readValue_quoted hq (quoteOf_notMem h)]
    have hcloses : Closes (' ' :: '}' :: '}' :: after) := ⟨after, rfl⟩
    have hcalls : readCalls (quotedText text ++
        (fallbackSource ['\'', '\''] ++ ' ' :: '}' :: '}' :: after)) =
          some (⟨.literal (.ofText (String.ofList text)), [fallbackCall []]⟩,
            ' ' :: '}' :: '}' :: after) :=
      readCalls_fallback (q := '\'') rfl List.not_mem_nil hcloses hentry
    rw [← hgap] at hcalls
    have hoverall := readOutput_of_readCalls hhyphen hcalls
    have hclose : skipGap (' ' :: '}' :: '}' :: after) = '}' :: '}' :: after := rfl
    rw [hclose, readClosing_closing, Option.map_some] at hoverall
    exact ⟨_, _, hoverall, ofCalls?_fallbackCall _ _⟩

/-- The variable of a readable path begins with no white space and no hyphen. -/
theorem exists_cons_expression {path : Path} (h : path.root.Readable) :
    ∃ c rest, path.expression = c :: rest ∧ beginsVariable c = true ∧
      Text.isNameChar c = true := by
  obtain ⟨c, run, hname, hbegins, hall⟩ := exists_cons_of_readableName h.name
  rw [expression_path_eq, hname, List.cons_append]
  exact ⟨c, _, rfl, hbegins, hall c List.mem_cons_self⟩

theorem head?_body_lookup {path : Path} (h : path.root.Readable) (text : List Char) :
    ((Expansion.lookup path).body text).head? ≠ some '-' := by
  obtain ⟨c, rest, hsource, hbegins, -⟩ := exists_cons_expression h
  rw [Expansion.body, hsource, List.cons_append, List.head?_cons]
  exact fun heq => (ne_of_beginsVariable hbegins).2.2.1 (Option.some_inj.mp heq)

theorem skipGap_body_lookup {path : Path} (h : path.root.Readable) (text after : List Char) :
    skipGap ((Expansion.lookup path).body text ++ '}' :: '}' :: after) =
      path.expression ++ (fallbackSource (quotedText text) ++ '}' :: '}' :: after) := by
  obtain ⟨c, rest, hsource, -, hname⟩ := exists_cons_expression h
  rw [Expansion.body, List.append_assoc, hsource, List.cons_append, skipGap_of_isNameChar hname]

/-- **The look-up of a readable path is read back**, unless its root begins with a literal word. -/
theorem Expansion.sound_chunk_lookup [Library] {path : Path} {text : List Char} (h : Quotable text)
    (hpath : ∀ s ∈ path.steps, s.Readable) (hwords : beginsWithWord path.root.name = false) :
    ((Expansion.lookup path).chunk text).Sound := by
  have hroot := hpath path.root List.mem_cons_self
  refine ⟨head?_body_lookup hroot text, fun after => ?_⟩
  have hends : StopsVariable (fallbackSource (quotedText text) ++ '}' :: '}' :: after) :=
    stopsVariable_of_endsPath rfl
  have hcalls := readCalls_fallback (isQuote_quoteOf text) (quoteOf_notMem h)
    (⟨after, rfl⟩ : Closes ('}' :: '}' :: after)) (readValue_expression hpath hwords hends)
  have hsource := skipGap_body_lookup hroot text after
  rw [quotedText] at hsource
  rw [← hsource] at hcalls
  have hoverall := readOutput_of_readCalls (head?_body_lookup hroot text) hcalls
  have hclose : skipGap ('}' :: '}' :: after) = '}' :: '}' :: after := rfl
  rw [hclose, readClosing_closing, Option.map_some] at hoverall
  exact ⟨_, _, hoverall, ofCalls?_fallbackCall _ _⟩

/-- **The look-up of a path whose root begins with a literal word cannot be read.** -/
theorem Expansion.broken_chunk_lookup {path : Path} {text : List Char}
    (hroot : path.root.Readable) (hwords : beginsWithWord path.root.name = true)
    (hname : path.root.name ∉ literalWords) : ((Expansion.lookup path).chunk text).Broken := by
  refine ⟨head?_body_lookup hroot text, fun after => ?_⟩
  have hends : StopsVariable (fallbackSource (quotedText text) ++ '}' :: '}' :: after) :=
    stopsVariable_of_endsPath rfl
  obtain ⟨calls, d, more, hcalls, hd⟩ := readCalls_of_beginsWithWord hroot.name hwords hname
    fun c hc => (head?_bracketSource path.root.index path.rest hends c hc).1
  have hsource := skipGap_body_lookup hroot text after
  rw [expression_path_eq, List.append_assoc, List.append_assoc] at hsource
  rw [← hsource] at hcalls
  rw [readOutput_of_readCalls (head?_body_lookup hroot text) hcalls,
    readClosing_of_isNameChar hd]
  rfl

/-! ## Expansion and finalization -/

/-- The path that is looked up can stand in a variable. -/
def Expansion.Readable : Expansion → Prop
  | lookup path => ∀ s ∈ path.steps, s.Readable
  | unresolved => True

theorem isQuote_of_isNameChar {c : Char} (h : Text.isNameChar c = true) : isQuote c = false := by
  rw [isQuote, beq_eq_false_iff_ne.mpr (ne_of_isNameChar h (d := '"') rfl),
    beq_eq_false_iff_ne.mpr (ne_of_isNameChar h (d := '\'') rfl)]
  rfl

/-- The names of a path are made of name characters. -/
def Path.Named (path : Path) : Prop :=
  ∀ s ∈ path.steps, ∀ c ∈ s.name.toList, Text.isNameChar c = true

theorem named_of_readable {path : Path} (h : ∀ s ∈ path.steps, s.Readable) : path.Named := by
  intro s hs c hc
  obtain ⟨d, run, hname, -, hall⟩ := exists_cons_of_readableName (h s hs).name
  rw [hname] at hc
  exact hall c hc

/-- A variable is made of name characters, dots and brackets. -/
theorem mem_stepExpression {s : Step} (h : ∀ c ∈ s.name.toList, Text.isNameChar c = true) :
    ∀ c ∈ s.expression, Text.isNameChar c = true ∨ c = '.' ∨ c = '[' ∨ c = ']' := by
  intro c hc
  rw [expression_eq, List.mem_append] at hc
  rcases hc with hc | hc
  · exact Or.inl (h c hc)
  · cases hindex : s.index with
    | none =>
      rw [hindex] at hc
      exact absurd hc (by simp [bracketSource])
    | some i =>
      rw [hindex, bracketSource, List.mem_append, List.mem_cons, List.mem_singleton] at hc
      rcases hc with (rfl | hc) | rfl
      · exact Or.inr (Or.inr (Or.inl rfl))
      · exact Or.inl (Text.isNameChar_of_isDigit (Text.isDigit_of_mem_natDigits hc))
      · exact Or.inr (Or.inr (Or.inr rfl))

theorem mem_expression {path : Path} (h : path.Named) : ∀ c ∈ path.expression,
    Text.isNameChar c = true ∨ c = '.' ∨ c = '[' ∨ c = ']' := by
  intro c hc
  rw [Path.expression, Path.steps, List.map_cons, joinWith_cons, List.mem_append] at hc
  rcases hc with hc | hc
  · exact mem_stepExpression (h path.root List.mem_cons_self) c hc
  · obtain ⟨written, hwritten, hc⟩ := List.mem_flatMap.mp hc
    obtain ⟨s, hs, rfl⟩ := List.mem_map.mp hwritten
    rcases List.mem_cons.mp hc with rfl | hc
    · exact Or.inr (Or.inl rfl)
    · exact mem_stepExpression (h s (List.mem_cons_of_mem path.root hs)) c hc

/-- Nothing in a variable has a meaning for the cutting of outputs. -/
theorem unmarked_of_mem_expression {path : Path} (h : path.Named) :
    ∀ c ∈ path.expression, Unmarked c ∧ c ≠ '|' := by
  intro c hc
  rcases mem_expression h c hc with hname | rfl | rfl | rfl
  · exact ⟨⟨isQuote_of_isNameChar hname, ne_of_isNameChar hname rfl⟩, ne_of_isNameChar hname rfl⟩
  · exact ⟨⟨rfl, by decide⟩, by decide⟩
  · exact ⟨⟨rfl, by decide⟩, by decide⟩
  · exact ⟨⟨rfl, by decide⟩, by decide⟩

/-- The output of a look-up is cut where it was written to end. -/
theorem cutUnquoted_body_lookup {text : List Char} (h : Quotable text) {path : Path}
    (hpath : path.Named) (after : List Char) :
    cutUnquoted '}' '}' none ((Expansion.lookup path).body text ++ '}' :: '}' :: after) =
      some ((Expansion.lookup path).body text, after) := by
  have hgap : ∀ c ∈ ' ' :: '|' :: ' ' :: (fallbackFilter.toList ++ [':', ' ']), Unmarked c :=
    forall_mem_of_all (by decide)
  have hbefore : ∀ c ∈ path.expression ++
      ' ' :: '|' :: ' ' :: (fallbackFilter.toList ++ [':', ' ']), Unmarked c := by
    intro c hc
    rcases List.mem_append.mp hc with hc | hc
    · exact (unmarked_of_mem_expression hpath c hc).1
    · exact hgap c hc
  have hbody : (Expansion.lookup path).body text = path.expression ++
      ' ' :: '|' :: ' ' :: (fallbackFilter.toList ++ [':', ' ']) ++
        (quoteOf text :: (text ++ quoteOf text :: [])) := by
    have happend := fallbackSource_append (quoteOf text) text []
    rw [List.append_nil] at happend
    rw [Expansion.body, quotedText, happend]
    simp only [List.cons_append, List.append_assoc, List.nil_append]
  have hoverall := cutUnquoted_output (isQuote_quoteOf text) (quoteOf_notMem h) hbefore
    (fun c hc => absurd hc List.not_mem_nil) after
  rw [hbody]
  simpa only [List.cons_append, List.append_assoc, List.nil_append] using hoverall

/-- The output of a look-up keeps its own fallback. -/
theorem finalizeBody_body_lookup {text : List Char} (h : Quotable text) {path : Path}
    (hpath : path.Named) :
    finalizeBody ((Expansion.lookup path).body text) = (Expansion.lookup path).body text := by
  refine finalizeBody_fallback (isQuote_quoteOf text) (quoteOf_notMem h) fun c hc => ?_
  have hmarks := unmarked_of_mem_expression hpath c hc
  exact ⟨hmarks.1.1, hmarks.2⟩

/-- What is written for a look-up is the source of its chunk. -/
theorem write_lookup (path : Path) (text : List Char) :
    (Expansion.lookup path).write (quotedText text) =
      '{' :: '{' :: ((Expansion.lookup path).body text ++ ['}', '}']) := by
  rw [Expansion.write, Expansion.body, fallbackSource]
  simp only [List.cons_append, List.append_assoc]

/-- A look-up keeps its own fallback. -/
theorem finalizeOutputs_write_lookup {text : List Char} (h : Quotable text) {path : Path}
    (hpath : path.Named) (after : List Char) :
    finalizeOutputs ((Expansion.lookup path).write (quotedText text) ++ after) =
      (finalizeOutputs after).map (((Expansion.lookup path).chunk text).source ++ ·) := by
  have hwrite : (Expansion.lookup path).write (quotedText text) ++ after =
      '{' :: '{' :: ((Expansion.lookup path).body text ++ '}' :: '}' :: after) := by
    rw [write_lookup]
    simp only [List.cons_append, List.append_assoc, List.nil_append]
  rw [hwrite, finalizeOutputs_output (cutUnquoted_body_lookup h hpath after),
    finalizeBody_body_lookup h hpath]
  refine congrArg (fun f => (finalizeOutputs after).map f) (funext fun rest => ?_)
  rw [Expansion.chunk, Chunk.source]
  simp only [List.cons_append, List.append_assoc, List.nil_append]

/-- A fallback that stands alone gets an empty one behind it. -/
theorem finalizeOutputs_write_unresolved {text : List Char} (h : Quotable text)
    (after : List Char) :
    finalizeOutputs (Expansion.unresolved.write (quotedText text) ++ after) =
      (finalizeOutputs after).map ((Expansion.unresolved.chunk text).source ++ ·) := by
  have hq := isQuote_quoteOf text
  have hblank : ∀ c ∈ [' '], Unmarked c := forall_mem_of_all (by decide)
  have hcut : cutUnquoted '}' '}' none
      (' ' :: (quoteOf text :: text ++ [quoteOf text]) ++ [' '] ++ '}' :: '}' :: after) =
        some (' ' :: (quoteOf text :: text ++ [quoteOf text]) ++ [' '], after) := by
    have hoverall := cutUnquoted_output hq (quoteOf_notMem h) hblank hblank after
    simpa only [List.cons_append, List.append_assoc, List.nil_append] using hoverall
  have hwrite : Expansion.unresolved.write (quotedText text) ++ after =
      '{' :: '{' :: (' ' :: (quoteOf text :: text ++ [quoteOf text]) ++ [' '] ++
        '}' :: '}' :: after) := by
    rw [Expansion.write, quotedText]
    simp only [List.cons_append, List.append_assoc, List.nil_append]
  rw [hwrite, finalizeOutputs_output hcut, finalizeBody_bare hq (quoteOf_notMem h)]
  refine congrArg (fun f => (finalizeOutputs after).map f) (funext fun rest => ?_)
  rw [Expansion.chunk, Chunk.source, Expansion.body, quotedText]
  simp only [List.cons_append, List.append_assoc, List.nil_append]

/-- **An expanded tag is finalized to its chunk**, whatever follows it. -/
theorem finalizeOutputs_write {text : List Char} (h : Quotable text) :
    ∀ {e : Expansion}, e.Readable → ∀ after : List Char,
      finalizeOutputs (e.write (quotedText text) ++ after) =
        (finalizeOutputs after).map ((e.chunk text).source ++ ·)
  | .lookup _, hpath, after => finalizeOutputs_write_lookup h (named_of_readable hpath) after
  | .unresolved, _, after => finalizeOutputs_write_unresolved h after

/-! ## Segments -/

/-- The chunk of a segment. -/
def Segment.chunk (fallback : Fallback) (screen : Path → Expansion) : Segment → Chunk
  | text chars => .text chars
  | tag path _ => (screen path).chunk (fallback.resolve path).toList

/-- A segment that is expanded without surprises: text without an opening brace, or a tag with a
fallback that can be put in quotes and a path that can stand in a variable. -/
def Segment.Expandable (fallback : Fallback) (screen : Path → Expansion) : Segment → Prop
  | text chars => '{' ∉ chars
  | tag path _ => Quotable (fallback.resolve path).toList ∧ (screen path).Readable

/-- Text is kept by finalization. -/
theorem finalizeOutputs_text : ∀ {chars : List Char}, '{' ∉ chars → ∀ rest : List Char,
    finalizeOutputs (chars ++ rest) = (finalizeOutputs rest).map (chars ++ ·)
  | [], _, rest => by
    exact (map_of_forall (fun _ => rfl) (finalizeOutputs rest)).symm
  | c :: chars, h, rest => by
    rw [List.mem_cons, not_or] at h
    rw [List.cons_append, finalizeOutputs_cons fun heq => h.1 heq.symm,
      finalizeOutputs_text h.2]
    exact map_map_of_forall (fun _ => rfl) (finalizeOutputs rest)

/-- **Expansion and finalization lead to the chunks of the segments.** -/
theorem finalizeOutputs_expandSegments {fallback : Fallback} {screen : Path → Expansion} :
    ∀ {segments : List Segment}, (∀ s ∈ segments, s.Expandable fallback screen) →
      ∃ expanded, expandSegments fallback screen segments = .ok expanded ∧
        finalizeOutputs expanded =
          .ok ((segments.map (Segment.chunk fallback screen)).flatMap Chunk.source)
  | [], _ => by
    refine ⟨[], rfl, ?_⟩
    rw [finalizeOutputs, pieces]
    rfl
  | s :: segments, h => by
    obtain ⟨rest, hrest, hfinal⟩ :=
      finalizeOutputs_expandSegments fun t ht => h t (List.mem_cons_of_mem s ht)
    have hs := h s List.mem_cons_self
    rw [List.map_cons, List.flatMap_cons]
    cases s with
    | text chars =>
      refine ⟨chars ++ rest, ?_, ?_⟩
      · rw [expandSegments, expandSegment, hrest]
      · rw [finalizeOutputs_text hs, hfinal]
        rfl
    | tag path source =>
      obtain ⟨hquotable, hreadable⟩ := hs
      have hliteral := quoteLiteral_eq_ok hquotable
      refine ⟨(screen path).write (quotedText (fallback.resolve path).toList) ++ rest, ?_, ?_⟩
      · rw [expandSegments, expandSegment, hliteral, hrest]
      · rw [finalizeOutputs_write hquotable hreadable, hfinal]
        rfl

/-- What a scanned template expands to, with the reading of it. -/
theorem readTemplate_of_scan [Library] {fallback : Fallback} {screen : Path → Expansion}
    {template : List Char} {segments : List Segment} (hscan : scan template = .ok segments)
    (h : ∀ s ∈ segments, s.Expandable fallback screen) :
    ∃ expanded, expandWith fallback screen template = .ok expanded ∧
      readTemplate expanded =
        match Template.read?
            ((segments.map (Segment.chunk fallback screen)).flatMap Chunk.source) with
        | some parts => .ok parts
        | none => .error .parse := by
  obtain ⟨expanded, hexpanded, hfinal⟩ := finalizeOutputs_expandSegments h
  refine ⟨expanded, ?_, ?_⟩
  · rw [expandWith, hscan]
    exact hexpanded
  · rw [readTemplate, hfinal]
    rfl

end TagTemplates
