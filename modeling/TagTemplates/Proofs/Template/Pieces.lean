import Mathlib.Data.List.Chain
import TagTemplates.Proofs.Attempts
import TagTemplates.Proofs.Template.Finalizing
import TagTemplates.Proofs.Template.RawBlocks

/-!
# The pieces of a text

Cutting a text at the engine's markers goes from left to right and looks ahead for the end of each
piece.  What comes out can be told from the pieces alone: each of them is closed where its own text
says, and no two of them could have been one.  A text that cannot be cut runs, inside a raw block,
into a tag whose two markers share their percent sign.

* `Piece.Shaped`, `Piece.Ends`, `PiecesOf`: what the pieces of a text are.
* `Overlaps`: a text that cannot be cut.
* `CutSettled`, `piecesOf_or_overlaps`: every text has pieces or cannot be cut.
* `pieces_append`: one piece in front of a text.
* `PiecesOf.pieces_eq`, `pieces_eq_error_iff`: what cutting comes to.
-/

namespace TagTemplates

variable {text cs rest : List Char} {p q : Piece} {ps qs : List Piece}

/-! ## Pieces -/

namespace Piece

/-- Whether a piece is plain text. -/
def isPlain : Piece → Bool
  | plain _ => true
  | _ => false

/-- The text of a piece is what its kind asks for: plain text holds no opening marker, a tag, an
output and the opening tag of a raw block end at the first closing marker outside string literals,
and an unclosed marker has none behind it. -/
def Shaped : Piece → Prop
  | plain chars => chars ≠ [] ∧ ¬['{', '{'] <:+: chars ∧ ¬['{', '%'] <:+: chars
  | tag body => ClosedBy '%' '}' none body ∧ tagWord body ≠ "raw".toList
  | raw opening block =>
    ClosedBy '%' '}' none opening ∧ tagWord opening = "raw".toList ∧
      (EndedBlock block ∨ EndlessBlock block)
  | output body => ClosedBy '}' '}' none body
  | unclosed chars =>
    (∃ inside, chars = '{' :: '{' :: inside ∧ Unpaired '}' '}' none inside) ∨
      ∃ inside, chars = '{' :: '%' :: inside ∧ Unpaired '%' '}' none inside

/-- The piece ends with its text, so that more may follow. -/
def Ends : Piece → Prop
  | plain chars => chars.getLast? ≠ some '{'
  | raw _ block => EndedBlock block
  | unclosed _ => False
  | _ => True

/-- Put a piece in front of others; plain text is joined with plain text. -/
def attach : Piece → List Piece → List Piece
  | plain chars, ps => chars.foldr consPlain ps
  | p, ps => p :: ps

end Piece

/-- The pieces of a text: together they are the text, each is what its kind asks for and ends before
the next one begins, and no two plain texts are neighbours. -/
structure PiecesOf (text : List Char) (ps : List Piece) : Prop where
  source : ps.flatMap Piece.source = text
  shaped : ∀ p ∈ ps, p.Shaped
  isChain : ps.IsChain fun p q => p.Ends ∧ ¬(p.isPlain = true ∧ q.isPlain = true)

/-- A text that cannot be cut: it leads up to a place between the tags of a raw block, and there
begins a tag whose two markers share their percent sign. -/
def Overlaps (text : List Char) : Prop :=
  ∃ start after ps opening run, text = start ++ '{' :: '%' :: '}' :: after ∧
    PiecesOf start (ps ++ [.raw opening run]) ∧ RawRun run

/-! ## One more piece in front -/

theorem exists_of_isPlain (h : p.isPlain = true) : ∃ chars, p = .plain chars := by
  cases p with
  | plain chars => exact ⟨chars, rfl⟩
  | tag body => exact absurd h (by simp [Piece.isPlain])
  | raw opening block => exact absurd h (by simp [Piece.isPlain])
  | output body => exact absurd h (by simp [Piece.isPlain])
  | unclosed chars => exact absurd h (by simp [Piece.isPlain])

theorem consPlain_of_isPlain_eq_false (h : p.isPlain = false) (c : Char) (ps : List Piece) :
    consPlain c (p :: ps) = .plain [c] :: p :: ps := by
  cases p with
  | plain chars => exact absurd h (by simp [Piece.isPlain])
  | tag body => rfl
  | raw opening block => rfl
  | output body => rfl
  | unclosed chars => rfl

/-- Everything but plain text begins with a brace. -/
theorem exists_source_eq_cons (hplain : p.isPlain = false) (hp : p.Shaped) :
    ∃ more, p.source = '{' :: more := by
  cases p with
  | plain chars => exact absurd hplain (by simp [Piece.isPlain])
  | tag body => exact ⟨_, rfl⟩
  | raw opening block => exact ⟨_, rfl⟩
  | output body => exact ⟨_, rfl⟩
  | unclosed chars =>
    rcases hp with ⟨inside, rfl, -⟩ | ⟨inside, rfl, -⟩
    · exact ⟨_, rfl⟩
    · exact ⟨_, rfl⟩

theorem piecesOf_nil : PiecesOf [] [] := ⟨rfl, by simp, List.isChain_nil⟩

theorem piecesOf_singleton (h : p.Shaped) : PiecesOf p.source [p] :=
  ⟨by simp, by simpa using h, List.isChain_singleton p⟩

/-- A piece that is no plain text in front of others. -/
theorem PiecesOf.cons (h : PiecesOf rest ps) (hp : p.Shaped) (hends : p.Ends)
    (hplain : p.isPlain = false) : PiecesOf (p.source ++ rest) (p :: ps) := by
  refine ⟨by rw [List.flatMap_cons, h.source], List.forall_mem_cons.mpr ⟨hp, h.shaped⟩,
    List.isChain_cons.mpr ⟨fun q _ => ⟨hends, ?_⟩, h.isChain⟩⟩
  rw [hplain]
  exact fun hboth => absurd hboth.1 (by simp)

/-- A character that opens no marker in front of plain text. -/
theorem not_infix_of_not_opensMarker {c : Char} {chars more : List Char}
    (h : ¬OpensMarker (c :: (chars ++ more)))
    (hchars : ¬['{', '{'] <:+: chars ∧ ¬['{', '%'] <:+: chars) :
    ¬['{', '{'] <:+: c :: chars ∧ ¬['{', '%'] <:+: c :: chars := by
  have hprefix : c :: chars <+: c :: (chars ++ more) := List.prefix_append (c :: chars) more
  rw [List.infix_cons_iff, List.infix_cons_iff, not_or, not_or]
  exact ⟨⟨fun hopen => h (Or.inl (hopen.trans hprefix)), hchars.1⟩,
    ⟨fun hopen => h (Or.inr (hopen.trans hprefix)), hchars.2⟩⟩

theorem shaped_plain_singleton (c : Char) : (Piece.plain [c]).Shaped :=
  ⟨List.cons_ne_nil c [], fun h => absurd h.length_le (by simp),
    fun h => absurd h.length_le (by simp)⟩

/-- **A character that opens no marker in front of pieces.** -/
theorem PiecesOf.consPlain {c : Char} (h : PiecesOf cs ps) (hc : ¬OpensMarker (c :: cs)) :
    PiecesOf (c :: cs) (consPlain c ps) := by
  cases ps with
  | nil =>
    obtain rfl : [] = cs := h.source
    exact piecesOf_singleton (shaped_plain_singleton c)
  | cons first rest =>
    obtain ⟨hfirst, hshaped⟩ := List.forall_mem_cons.mp h.shaped
    obtain ⟨hnext, hchain⟩ := List.isChain_cons.mp h.isChain
    have hsource : first.source ++ rest.flatMap Piece.source = cs := h.source
    by_cases hplain : first.isPlain = true
    · obtain ⟨chars, rfl⟩ := exists_of_isPlain hplain
      obtain ⟨hne, hmarkers⟩ := hfirst
      rw [← hsource] at hc
      refine ⟨congrArg (c :: ·) hsource,
        List.forall_mem_cons.mpr ⟨⟨List.cons_ne_nil c chars, ?_⟩, hshaped⟩,
        List.isChain_cons.mpr ⟨fun q hq => ⟨?_, (hnext q hq).2⟩, hchain⟩⟩
      · exact not_infix_of_not_opensMarker hc hmarkers
      · show (c :: chars).getLast? ≠ some '{'
        rw [List.getLast?_cons_of_ne_nil hne]
        exact (hnext q hq).1
    · have hother : first.isPlain = false := by simpa using hplain
      rw [consPlain_of_isPlain_eq_false hother]
      refine ⟨by rw [List.flatMap_cons, h.source]; rfl,
        List.forall_mem_cons.mpr ⟨shaped_plain_singleton c, h.shaped⟩,
        List.isChain_cons.mpr ⟨fun q hq => ?_, h.isChain⟩⟩
      obtain rfl := Option.some_inj.mp hq
      rw [hother]
      refine ⟨fun hlast => hc ?_, fun hboth => absurd hboth.2 (by simp)⟩
      -- the brace would make a marker with the one that the next piece begins with
      obtain rfl : c = '{' := by simpa using hlast
      obtain ⟨more, hmore⟩ := exists_source_eq_cons hother hfirst
      rw [← hsource, hmore]
      exact Or.inl (List.prefix_append ['{', '{'] _)

/-! ## Every text -/

theorem Overlaps.cons (h : Overlaps rest) (hp : p.Shaped) (hends : p.Ends)
    (hplain : p.isPlain = false) : Overlaps (p.source ++ rest) := by
  obtain ⟨start, after, ps, opening, run, rfl, hpieces, hrun⟩ := h
  exact ⟨p.source ++ start, after, p :: ps, opening, run, (List.append_assoc _ _ _).symm,
    hpieces.cons hp hends hplain, hrun⟩

theorem exists_consPlain_append (c : Char) (hp : p.isPlain = false) (ps : List Piece) :
    ∃ qs, consPlain c (ps ++ [p]) = qs ++ [p] := by
  cases ps with
  | nil => exact ⟨[.plain [c]], consPlain_of_isPlain_eq_false hp c []⟩
  | cons first rest =>
    cases first with
    | plain chars => exact ⟨.plain (c :: chars) :: rest, rfl⟩
    | tag body => exact ⟨.plain [c] :: .tag body :: rest, rfl⟩
    | raw opening block => exact ⟨.plain [c] :: .raw opening block :: rest, rfl⟩
    | output body => exact ⟨.plain [c] :: .output body :: rest, rfl⟩
    | unclosed chars => exact ⟨.plain [c] :: .unclosed chars :: rest, rfl⟩

theorem Overlaps.consPlain {c : Char} (h : Overlaps cs) (hc : ¬OpensMarker (c :: cs)) :
    Overlaps (c :: cs) := by
  obtain ⟨start, after, ps, opening, run, rfl, hpieces, hrun⟩ := h
  have hstart : ¬OpensMarker (c :: start) := by
    rintro (hopen | hopen)
    · exact hc (Or.inl (hopen.trans (List.prefix_append (c :: start) _)))
    · exact hc (Or.inr (hopen.trans (List.prefix_append (c :: start) _)))
  obtain ⟨qs, hqs⟩ := exists_consPlain_append c (p := .raw opening run) rfl ps
  have hcons := hpieces.consPlain hstart
  rw [hqs] at hcons
  exact ⟨c :: start, after, qs, opening, run, rfl, hcons, hrun⟩

/-- Whether a text can be cut is settled: it has pieces, or it runs into markers that overlap. -/
def CutSettled (text : List Char) : Prop := (∃ ps, PiecesOf text ps) ∨ Overlaps text

/-- A text that begins with a closed piece is as the text behind it. -/
theorem CutSettled.cons (h : CutSettled rest) (hp : p.Shaped) (hends : p.Ends)
    (hplain : p.isPlain = false) : CutSettled (p.source ++ rest) := by
  rcases h with ⟨ps, hps⟩ | hover
  · exact Or.inl ⟨p :: ps, hps.cons hp hends hplain⟩
  · exact Or.inr (hover.cons hp hends hplain)

/-- A text that begins with a character that opens no marker is as the text behind it. -/
theorem CutSettled.consPlain {c : Char} (h : CutSettled cs) (hc : ¬OpensMarker (c :: cs)) :
    CutSettled (c :: cs) := by
  rcases h with ⟨ps, hps⟩ | hover
  · exact Or.inl ⟨_, hps.consPlain hc⟩
  · exact Or.inr (hover.consPlain hc)

/-- What an opening marker of an output makes of a text. -/
theorem cutSettled_output {inside : List Char}
    (ih : ∀ rest, rest.length < inside.length → CutSettled rest) :
    CutSettled ('{' :: '{' :: inside) := by
  cases hcut : cutUnquoted '}' '}' none inside with
  | none =>
    have hopen := (cutUnquoted_eq_none_iff rfl).mp hcut
    exact Or.inl ⟨_, piecesOf_singleton (p := .unclosed ('{' :: '{' :: inside))
      (Or.inl ⟨inside, rfl, hopen⟩)⟩
  | some cut =>
    have hafter := ih cut.2 (cutUnquoted_length hcut)
    obtain ⟨rfl, hclosed⟩ := (cutUnquoted_eq_some_iff rfl).mp hcut
    have hsource : '{' :: '{' :: (cut.1 ++ '}' :: '}' :: cut.2) =
        (Piece.output cut.1).source ++ cut.2 := by simp [Piece.source]
    rw [hsource]
    exact hafter.cons hclosed trivial rfl

/-- What the opening tag of a raw block makes of a text. -/
theorem cutSettled_raw {opening : List Char} (hclosed : ClosedBy '%' '}' none opening)
    (hword : tagWord opening = "raw".toList)
    (ih : ∀ rest, rest.length ≤ cs.length → CutSettled rest) :
    CutSettled ('{' :: '%' :: (opening ++ '%' :: '}' :: cs)) := by
  rcases blockSettled cs with ⟨block, rest, rfl, hended⟩ | hendless | ⟨run, after, rfl, hrun⟩
  · have hsource : '{' :: '%' :: (opening ++ '%' :: '}' :: (block ++ rest)) =
        (Piece.raw opening block).source ++ rest := by simp [Piece.source]
    have hrest := ih rest (by rw [List.length_append]; omega)
    rw [hsource]
    exact hrest.cons ⟨hclosed, hword, Or.inl hended⟩ hended rfl
  · exact Or.inl ⟨_, piecesOf_singleton (p := .raw opening cs) ⟨hclosed, hword, Or.inr hendless⟩⟩
  · refine Or.inr ⟨(Piece.raw opening run).source, after, [], opening, run, ?_,
      piecesOf_singleton ⟨hclosed, hword, Or.inr (Or.inl hrun)⟩, hrun⟩
    simp [Piece.source]

/-- What an opening marker of a tag makes of a text. -/
theorem cutSettled_tag {inside : List Char}
    (ih : ∀ rest, rest.length < inside.length → CutSettled rest) :
    CutSettled ('{' :: '%' :: inside) := by
  cases hcut : cutUnquoted '%' '}' none inside with
  | none =>
    have hopen := (cutUnquoted_eq_none_iff rfl).mp hcut
    exact Or.inl ⟨_, piecesOf_singleton (p := .unclosed ('{' :: '%' :: inside))
      (Or.inr ⟨inside, rfl, hopen⟩)⟩
  | some cut =>
    have hlength : cut.2.length < inside.length := cutUnquoted_length hcut
    obtain ⟨rfl, hclosed⟩ := (cutUnquoted_eq_some_iff rfl).mp hcut
    by_cases hword : tagWord cut.1 = "raw".toList
    · exact cutSettled_raw hclosed hword fun rest hrest => ih rest (hrest.trans_lt hlength)
    · have hsource : '{' :: '%' :: (cut.1 ++ '%' :: '}' :: cut.2) =
          (Piece.tag cut.1).source ++ cut.2 := by simp [Piece.source]
      rw [hsource]
      exact (ih cut.2 hlength).cons ⟨hclosed, hword⟩ trivial rfl

/-- **Every text has pieces or cannot be cut.**  By induction on its length, one piece at a time. -/
theorem piecesOf_or_overlaps (text : List Char) : (∃ ps, PiecesOf text ps) ∨ Overlaps text := by
  show CutSettled text
  induction hn : text.length using Nat.strongRecOn generalizing text with
  | _ n ih =>
    have hshorter : ∀ rest : List Char, rest.length < text.length → CutSettled rest :=
      fun rest hlt => ih rest.length (hn ▸ hlt) rest rfl
    cases text with
    | nil => exact Or.inl ⟨[], piecesOf_nil⟩
    | cons c cs =>
      by_cases hmarker : OpensMarker (c :: cs)
      · rcases hmarker with ⟨inside, hopen⟩ | ⟨inside, hopen⟩
        · rw [← hopen] at hshorter ⊢
          have hinside : inside.length < (['{', '{'] ++ inside).length := by
            rw [List.length_append]
            exact Nat.lt_add_of_pos_left (by decide)
          exact cutSettled_output fun rest hlt => hshorter rest (hlt.trans hinside)
        · rw [← hopen] at hshorter ⊢
          have hinside : inside.length < (['{', '%'] ++ inside).length := by
            rw [List.length_append]
            exact Nat.lt_add_of_pos_left (by decide)
          exact cutSettled_tag fun rest hlt => hshorter rest (hlt.trans hinside)
      · exact (hshorter cs (Nat.lt_succ_self _)).consPlain hmarker

/-! ## Cutting off a piece -/

theorem pieces_unclosed_output {inside : List Char} (h : Unpaired '}' '}' none inside) :
    pieces ('{' :: '{' :: inside) = .ok [.unclosed ('{' :: '{' :: inside)] := by
  have hnone : cutUnquoted '}' '}' none inside = none := (cutUnquoted_eq_none_iff rfl).mpr h
  rw [pieces]
  split
  · rfl
  · next hcut => exact absurd (hnone.symm.trans hcut) (by simp)

theorem pieces_unclosed_tag {inside : List Char} (h : Unpaired '%' '}' none inside) :
    pieces ('{' :: '%' :: inside) = .ok [.unclosed ('{' :: '%' :: inside)] := by
  have hnone : cutUnquoted '%' '}' none inside = none := (cutUnquoted_eq_none_iff rfl).mpr h
  rw [pieces]
  split
  · rfl
  · next hcut => exact absurd (hnone.symm.trans hcut) (by simp)

theorem pieces_tag {body : List Char} (h : ClosedBy '%' '}' none body)
    (hword : tagWord body ≠ "raw".toList) (after : List Char) :
    pieces ('{' :: '%' :: (body ++ '%' :: '}' :: after)) =
      (pieces after).map (.tag body :: ·) := by
  have hsome := cutUnquoted_append rfl after h
  rw [pieces]
  split
  · next hcut => exact absurd (hsome.symm.trans hcut) (by simp)
  · next hcut =>
    obtain ⟨rfl, rfl⟩ := Prod.mk.inj (Option.some_inj.mp (hsome.symm.trans hcut))
    rw [if_neg hword]
    cases pieces after with
    | error e => rfl
    | ok ps => rfl

/-- Behind the opening tag of a raw block the text goes on where the block was cut off. -/
theorem pieces_raw {opening : List Char} (h : ClosedBy '%' '}' none opening)
    (hword : tagWord opening = "raw".toList) (after : List Char) :
    pieces ('{' :: '%' :: (opening ++ '%' :: '}' :: after)) =
      match cutRawBlock after with
      | .error e => .error e
      | .ok (block, rest) => (pieces rest).map (.raw opening block :: ·) := by
  have hsome := cutUnquoted_append rfl after h
  rw [pieces]
  split
  · next hcut => exact absurd (hsome.symm.trans hcut) (by simp)
  · next hcut =>
    obtain ⟨rfl, rfl⟩ := Prod.mk.inj (Option.some_inj.mp (hsome.symm.trans hcut))
    rw [if_pos hword]
    split
    · next hblock => rw [hblock]
    · next hblock =>
      rw [hblock]
      show _ = (pieces _).map _
      cases pieces _ with
      | error e => rfl
      | ok ps => rfl

/-- No marker begins in plain text that ends before the next one. -/
theorem not_prefix_append {c d : Char} {chars : List Char} (h : ¬['{', d] <:+: c :: chars)
    (hends : (c :: chars).getLast? ≠ some '{' ∨ rest = []) :
    ¬['{', d] <+: c :: (chars ++ rest) := by
  intro hopen
  obtain ⟨rfl, hhead⟩ := pair_prefix_cons_iff.mp hopen
  cases chars with
  | nil =>
    rcases hends with hlast | rfl
    · exact hlast rfl
    · exact absurd hhead (by simp)
  | cons e chars =>
    have hprefix : ['{', d] <+: '{' :: e :: chars := pair_prefix_cons_iff.mpr ⟨rfl, hhead⟩
    exact h hprefix.isInfix

/-- Plain text is joined with what follows it. -/
theorem pieces_plain_append : ∀ {chars : List Char}, ¬['{', '{'] <:+: chars →
    ¬['{', '%'] <:+: chars → chars.getLast? ≠ some '{' ∨ rest = [] →
      pieces (chars ++ rest) = (pieces rest).map fun ps => chars.foldr consPlain ps
  | [], _, _, _ => by
    rw [List.nil_append]
    exact (map_of_forall (fun _ => rfl) (pieces rest)).symm
  | c :: chars, houtput, htag, hends => by
    have hmarker : ¬OpensMarker (c :: (chars ++ rest)) :=
      not_or.mpr ⟨not_prefix_append houtput hends, not_prefix_append htag hends⟩
    have htail : chars.getLast? ≠ some '{' ∨ rest = [] := by
      refine hends.imp_left fun hlast hchars => hlast ?_
      rw [List.getLast?_cons, hchars]
      rfl
    rw [List.cons_append, pieces_cons hmarker,
      pieces_plain_append (fun h => houtput (h.trans (List.suffix_cons c chars).isInfix))
        (fun h => htag (h.trans (List.suffix_cons c chars).isInfix)) htail]
    exact map_map_of_forall (fun _ => rfl) (pieces rest)

/-- **A piece in front of a text is cut off**, when it ends or nothing follows it. -/
theorem pieces_append (hp : p.Shaped) (h : p.Ends ∨ rest = []) :
    pieces (p.source ++ rest) = (pieces rest).map p.attach := by
  cases p with
  | plain chars => exact pieces_plain_append hp.2.1 hp.2.2 h
  | tag body =>
    have hsource : (Piece.tag body).source ++ rest =
        '{' :: '%' :: (body ++ '%' :: '}' :: rest) := by
      simp [Piece.source]
    rw [hsource, pieces_tag hp.1 hp.2]
    rfl
  | raw opening block =>
    obtain ⟨hclosed, hword, hblock⟩ := hp
    have hcut : cutRawBlock (block ++ rest) = .ok (block, rest) := by
      rcases hblock with hended | hendless
      · exact cutRawBlock_of_ended hended rest
      · rcases h with hended | rfl
        · exact cutRawBlock_of_ended hended rest
        · rw [List.append_nil]
          exact cutRawBlock_of_endless hendless
    have hsource : (Piece.raw opening block).source ++ rest =
        '{' :: '%' :: (opening ++ '%' :: '}' :: (block ++ rest)) := by
      simp [Piece.source]
    rw [hsource, pieces_raw hclosed hword, hcut]
    rfl
  | output body =>
    have hsource : (Piece.output body).source ++ rest =
        '{' :: '{' :: (body ++ '}' :: '}' :: rest) := by
      simp [Piece.source]
    rw [hsource, pieces_output (cutUnquoted_append rfl rest hp)]
    rfl
  | unclosed chars =>
    obtain rfl := h.resolve_left id
    have hnil : pieces [] = .ok [] := by rw [pieces]
    rw [List.append_nil, hnil]
    rcases hp with ⟨inside, rfl, hopen⟩ | ⟨inside, rfl, hopen⟩
    · exact pieces_unclosed_output hopen
    · exact pieces_unclosed_tag hopen

/-- In front of a piece that is no plain text, plain text is a piece of its own. -/
theorem foldr_consPlain (h : ∀ q ∈ ps.head?, q.isPlain = false) : ∀ {chars : List Char},
    chars ≠ [] → chars.foldr consPlain ps = .plain chars :: ps
  | [], hne => absurd rfl hne
  | [c], _ => by
    cases ps with
    | nil => rfl
    | cons q ps => exact consPlain_of_isPlain_eq_false (h q rfl) c ps
  | c :: d :: chars, _ => by
    rw [List.foldr_cons, foldr_consPlain h (List.cons_ne_nil d chars)]
    rfl

/-- A piece that could not be joined with the next one stands for itself. -/
theorem attach_eq_cons (hp : p.Shaped)
    (h : ∀ q ∈ ps.head?, ¬(p.isPlain = true ∧ q.isPlain = true)) : p.attach ps = p :: ps := by
  cases p with
  | plain chars =>
    refine foldr_consPlain (fun q hq => ?_) hp.1
    simpa [Piece.isPlain] using h q hq
  | tag body => rfl
  | raw opening block => rfl
  | output body => rfl
  | unclosed chars => rfl

/-! ## What cutting comes to -/

/-- **The pieces of a text are found.**  By induction on the pieces. -/
theorem PiecesOf.pieces_eq : ∀ {ps : List Piece} {text : List Char}, PiecesOf text ps →
    pieces text = .ok ps
  | [], text, h => by
    obtain rfl : [] = text := h.source
    rw [pieces]
  | p :: ps, text, h => by
    obtain ⟨hp, hshaped⟩ := List.forall_mem_cons.mp h.shaped
    obtain ⟨hnext, hchain⟩ := List.isChain_cons.mp h.isChain
    have hrest : PiecesOf (ps.flatMap Piece.source) ps := ⟨rfl, hshaped, hchain⟩
    have hends : p.Ends ∨ ps.flatMap Piece.source = [] := by
      cases ps with
      | nil => exact Or.inr rfl
      | cons q ps => exact Or.inl (hnext q rfl).1
    have hsource : p.source ++ ps.flatMap Piece.source = text := h.source
    rw [← hsource, pieces_append hp hends, hrest.pieces_eq]
    exact congrArg Except.ok (attach_eq_cons hp fun q hq => (hnext q hq).2)

/-- What cannot be cut behind pieces that end cannot be cut at all. -/
theorem pieces_eq_error_of_append {e : Abort} (hrest : pieces rest = .error e) :
    ∀ {ps : List Piece}, (∀ p ∈ ps, p.Shaped ∧ p.Ends) →
      pieces (ps.flatMap Piece.source ++ rest) = .error e
  | [], _ => hrest
  | p :: ps, h => by
    obtain ⟨⟨hp, hends⟩, hps⟩ := List.forall_mem_cons.mp h
    rw [List.flatMap_cons, List.append_assoc, pieces_append hp (Or.inl hends),
      pieces_eq_error_of_append hrest hps]
    rfl

/-- Every piece in front of another one ends. -/
theorem ends_of_isChain {R : Piece → Piece → Prop} (hR : ∀ p q, R p q → p.Ends) :
    ∀ {ps : List Piece}, (ps ++ [q]).IsChain R → ∀ p ∈ ps, p.Ends
  | [], _ => by simp
  | p :: ps, h => by
    obtain ⟨hnext, hchain⟩ := List.isChain_cons.mp h
    refine List.forall_mem_cons.mpr ⟨?_, ends_of_isChain hR hchain⟩
    cases ps with
    | nil => exact hR p q (hnext q rfl)
    | cons r ps => exact hR p r (hnext r rfl)

/-- **A text that overlaps is not cut.** -/
theorem Overlaps.pieces_eq (h : Overlaps text) : pieces text = .error .overlappingMarkers := by
  obtain ⟨start, after, ps, opening, run, rfl, hpieces, hrun⟩ := h
  obtain ⟨hps, hraw⟩ := List.forall_mem_append.mp hpieces.shaped
  obtain ⟨hclosed, hword, -⟩ := hraw _ List.mem_cons_self
  have hends := ends_of_isChain (fun p q hpq => hpq.1) hpieces.isChain
  have hover : cutRawBlock (run ++ '{' :: '%' :: '}' :: after) = .error .overlappingMarkers :=
    cutRawBlock_of_overlaps ⟨run, after, rfl, hrun⟩
  have hrest : pieces ('{' :: '%' :: (opening ++ '%' :: '}' ::
      (run ++ '{' :: '%' :: '}' :: after))) = .error .overlappingMarkers := by
    rw [pieces_raw hclosed hword, hover]
  have hsource : start ++ '{' :: '%' :: '}' :: after =
      ps.flatMap Piece.source ++ '{' :: '%' :: (opening ++ '%' :: '}' ::
        (run ++ '{' :: '%' :: '}' :: after)) := by
    rw [← hpieces.source]
    simp [Piece.source]
  rw [hsource]
  exact pieces_eq_error_of_append hrest fun p hp => ⟨hps p hp, hends p hp⟩

/-- **A text is not cut exactly when it overlaps.** -/
theorem pieces_eq_error_iff {e : Abort} :
    pieces text = .error e ↔ e = .overlappingMarkers ∧ Overlaps text := by
  constructor
  · intro h
    rcases piecesOf_or_overlaps text with ⟨qs, hqs⟩ | hover
    · exact absurd (hqs.pieces_eq.symm.trans h) (by simp)
    · exact ⟨Except.error.inj (h.symm.trans hover.pieces_eq), hover⟩
  · rintro ⟨rfl, hover⟩
    exact hover.pieces_eq

end TagTemplates
