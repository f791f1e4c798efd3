import TagTemplates.Liquid.Render
import TagTemplates.Proofs.Liquid.Calls

/-!
# Templates of text and outputs

An expanded template is text without an opening brace, with outputs in between.  Such a template is
read chunk by chunk, and what it prints is what its chunks print, one after another.  One output
that cannot be read is enough to refuse the whole template.

* `Chunk`: text or an output; `Chunk.Sound` and `Chunk.Broken` say that an output can be read and
  that it cannot.
* `plainText_append`: text goes up to the next output.
* `read?_of_sound`, `read?_of_broken`: how a list of chunks is read.
* `renderParts_partsOf`: what it prints.
-/

namespace TagTemplates

namespace Liquid

/-- A piece of an expanded template: text, or an output with the chain it should be read as. -/
inductive Chunk where
  | text (chars : List Char)
  | output (body : List Char) (chain : Chain)

namespace Chunk

/-- What is written for a chunk. -/
def source : Chunk → List Char
  | text chars => chars
  | output body _ => '{' :: '{' :: (body ++ ['}', '}'])

/-- The text holds no opening brace, and an output is read as its chain. -/
def Sound [Library] : Chunk → Prop
  | text chars => '{' ∉ chars
  | output body chain => body.head? ≠ some '-' ∧ ∀ after, ∃ calls written,
      readOutput ('{' :: '{' :: (body ++ '}' :: '}' :: after)) =
        some (.output calls written, after) ∧ Chain.ofCalls? calls = some chain

/-- An output that cannot be read. -/
def Broken : Chunk → Prop
  | text _ => False
  | output body _ => body.head? ≠ some '-' ∧ ∀ after,
      readOutput ('{' :: '{' :: (body ++ '}' :: '}' :: after)) = none

/-- What a chunk prints when nothing is assigned. -/
def print? (scope : Scope) : Chunk → Option String
  | text chars => some (String.ofList chars)
  | output _ chain => (chain.evaluate scope []).map Value.text

end Chunk

/-- Nothing more, or an output whose marker takes no white space with it. -/
def OpensOutput (rest : List Char) : Prop :=
  rest = [] ∨ ∃ body, rest = '{' :: '{' :: body ∧ body.head? ≠ some '-'

/-! ## Text -/

/-- A marker that does not stand behind the text does not open inside it. -/
theorem not_prefix_skipGap {marker rest : List Char} (hrest : OpensOutput rest)
    (hmarker : ¬ '{' :: marker <+: rest) :
    ∀ {chars : List Char}, '{' ∉ chars → ¬ '{' :: marker <+: skipGap (chars ++ rest)
  | [], _, hprefix => by
    rcases hrest with rfl | ⟨body, rfl, -⟩
    · exact absurd hprefix (by simp [skipGap])
    · exact hmarker hprefix
  | c :: chars, hchars, hprefix => by
    rw [List.mem_cons, not_or] at hchars
    rw [List.cons_append, skipGap, List.dropWhile_cons] at hprefix
    by_cases hgap : isGap c = true
    · rw [if_pos hgap] at hprefix
      exact not_prefix_skipGap hrest hmarker hchars.2 hprefix
    · rw [if_neg hgap] at hprefix
      exact hchars.1 (List.cons_prefix_cons.mp hprefix).1

/-- No marker opens where text stands. -/
theorem readOpening_append {c : Char} {chars rest : List Char} (hrest : OpensOutput rest)
    (hchars : '{' ∉ c :: chars) {marker : String} {second : Char}
    (hmarker : marker.toList = ['{', second])
    (hsecond : ¬['{', second, '-'] <+: rest) :
    readOpening marker (c :: chars ++ rest) = none := by
  have htrim : (marker ++ "-").toList = '{' :: [second, '-'] := by
    rw [String.toList_append, hmarker]
    rfl
  have hbare : ¬marker.toList <+: c :: chars ++ rest := by
    rw [hmarker, List.cons_append]
    intro hprefix
    exact hchars ((List.cons_prefix_cons.mp hprefix).1 ▸ List.mem_cons_self)
  rw [readOpening, readWord_eq_none hbare, readWord_eq_none]
  · rfl
  · rw [htrim]
    exact not_prefix_skipGap hrest hsecond hchars

theorem not_prefix_of_opensOutput {rest : List Char} (h : OpensOutput rest) :
    ¬['{', '{', '-'] <+: rest ∧ ¬['{', '%', '-'] <+: rest := by
  rcases h with rfl | ⟨body, rfl, hbody⟩
  · exact ⟨by simp, by simp⟩
  · constructor
    · intro hprefix
      have hhyphen := (List.cons_prefix_cons.mp (List.cons_prefix_cons.mp hprefix).2).2
      cases body with
      | nil => exact absurd hhyphen (by simp)
      | cons c body => exact hbody (congrArg some (List.cons_prefix_cons.mp hhyphen).1.symm)
    · intro hprefix
      have hpercent := (List.cons_prefix_cons.mp (List.cons_prefix_cons.mp hprefix).2).1
      exact absurd hpercent (by decide)

/-- Inside text no output and no tag opens. -/
theorem readOpening_append_eq_none {c : Char} {chars rest : List Char} (hrest : OpensOutput rest)
    (hchars : '{' ∉ c :: chars) :
    readOpening outputOpening (c :: chars ++ rest) = none ∧
      readOpening tagOpening (c :: chars ++ rest) = none := by
  obtain ⟨houtput, htag⟩ := not_prefix_of_opensOutput hrest
  exact ⟨readOpening_append hrest hchars rfl houtput, readOpening_append hrest hchars rfl htag⟩

/-- **Text goes up to the next output.** -/
theorem plainText_append : ∀ {chars rest : List Char}, '{' ∉ chars → OpensOutput rest →
    plainText (chars ++ rest) = (chars, rest)
  | [], rest, _, hrest => by
    rcases hrest with rfl | ⟨body, rfl, -⟩
    · rfl
    · have hopens : opensMarker ('{' :: '{' :: body) = true := by
        have hword : readWord outputOpening ('{' :: '{' :: body) = some body :=
          readWord_append outputOpening body
        rw [opensMarker, readOpening, hword]
        cases readWord (outputOpening ++ "-") (skipGap ('{' :: '{' :: body)) <;> rfl
      rw [List.nil_append, plainText, if_pos hopens]
  | c :: chars, rest, hchars, hrest => by
    obtain ⟨houtput, htag⟩ := readOpening_append_eq_none hrest hchars
    have hopens : opensMarker (c :: chars ++ rest) = false := by
      rw [opensMarker, houtput, htag]
      rfl
    rw [List.cons_append] at hopens ⊢
    rw [plainText, hopens,
      plainText_append (fun hmem => hchars (List.mem_cons_of_mem c hmem)) hrest]
    rfl

/-! ## Elements -/

theorem readTag_of_outputOpening (rest : List Char) : readTag ('{' :: '{' :: rest) = none := by
  have htrim : readWord (tagOpening ++ "-") (skipGap ('{' :: '{' :: rest)) = none := by
    refine readWord_eq_none fun hprefix => ?_
    have hpercent := (List.cons_prefix_cons.mp (List.cons_prefix_cons.mp hprefix).2).1
    exact absurd hpercent (by decide)
  have hbare : readWord tagOpening ('{' :: '{' :: rest) = none := by
    refine readWord_eq_none fun hprefix => ?_
    have hpercent := (List.cons_prefix_cons.mp (List.cons_prefix_cons.mp hprefix).2).1
    exact absurd hpercent (by decide)
  rw [readTag, readOpening, htrim, hbare]
  rfl

/-- Text is one element. -/
theorem elementsWithin_text {c : Char} {chars rest : List Char} (hrest : OpensOutput rest)
    (hchars : '{' ∉ c :: chars) (fuel : Nat) :
    elementsWithin (fuel + 1) (c :: chars ++ rest) =
      .text (c :: chars) :: elementsWithin fuel rest := by
  obtain ⟨houtput, htag⟩ := readOpening_append_eq_none hrest hchars
  have hplain := plainText_append hchars hrest
  have hnone : (readOutput (c :: chars ++ rest) <|> readTag (c :: chars ++ rest)) = none := by
    rw [readOutput, readTag, houtput, htag]
    rfl
  rw [List.cons_append] at hnone hplain ⊢
  rw [elementsWithin, hnone, hplain]

/-- An output that can be read is one element. -/
theorem elementsWithin_output {rest after : List Char} {element : Element}
    (h : readOutput ('{' :: '{' :: rest) = some (element, after)) (fuel : Nat) :
    elementsWithin (fuel + 1) ('{' :: '{' :: rest) = element :: elementsWithin fuel after := by
  rw [elementsWithin, h]
  rfl

/-- An output that cannot be read leaves its brace behind. -/
theorem elementsWithin_broken {rest : List Char} (h : readOutput ('{' :: '{' :: rest) = none)
    (hhyphen : rest.head? ≠ some '-') (fuel : Nat) :
    elementsWithin (fuel + 1) ('{' :: '{' :: rest) =
      .stray '{' :: elementsWithin fuel ('{' :: rest) := by
  have hplain : plainText ('{' :: '{' :: rest) = ([], '{' :: '{' :: rest) :=
    plainText_append List.not_mem_nil (Or.inr ⟨rest, rfl, hhyphen⟩)
  rw [elementsWithin, h, readTag_of_outputOpening, hplain]
  rfl

/-- The part that an element is, if it is text or an output. -/
def Element.part? [Library] : Element → Option Part
  | text source => some (.text source)
  | output calls _ => (Chain.ofCalls? calls).map .output
  | _ => none

/-- The parts of text that may be empty. -/
def textParts (chars : List Char) : List Part := if chars.isEmpty then [] else [.text chars]

/-- The parts of chunks, with text in front that was not read as a part yet. -/
def partsOf : List Char → List Chunk → List Part
  | chars, [] => textParts chars
  | chars, .text more :: rest => partsOf (chars ++ more) rest
  | chars, .output _ chain :: rest => textParts chars ++ .output chain :: partsOf [] rest

/-- The source of chunks that begin with an output opens one. -/
theorem opensOutput_source {body : List Char} (h : body.head? ≠ some '-') (more : List Char) :
    OpensOutput ('{' :: '{' :: (body ++ '}' :: '}' :: more)) := by
  refine Or.inr ⟨_, rfl, ?_⟩
  cases body with
  | nil => simp
  | cons c body => exact h

/-- The source of chunks of which the first one is an output. -/
theorem flatMap_source_output (body : List Char) (chain : Chain) (chunks : List Chunk) :
    (Chunk.output body chain :: chunks).flatMap Chunk.source =
      '{' :: '{' :: (body ++ '}' :: '}' :: chunks.flatMap Chunk.source) := by
  rw [List.flatMap_cons, Chunk.source, List.cons_append, List.cons_append, List.append_assoc]
  rfl

/-- Elements that a brace stops, with nothing but text and outputs in front of it. -/
inductive Blocked : List Element → Prop where
  | here (c : Char) (rest : List Element) : Blocked (.stray c :: rest)
  | text (source : List Char) {rest : List Element} : Blocked rest → Blocked (.text source :: rest)
  | output (calls : Calls) (source : List Char) {rest : List Element} : Blocked rest →
      Blocked (.output calls source :: rest)

/-- Text in front of what is blocked does not help. -/
theorem blocked_text {chars rest : List Char} (hrest : OpensOutput rest) (hchars : '{' ∉ chars)
    (h : ∀ fuel, rest.length ≤ fuel → Blocked (elementsWithin fuel rest)) :
    ∀ fuel, (chars ++ rest).length ≤ fuel → Blocked (elementsWithin fuel (chars ++ rest)) := by
  intro fuel hfuel
  cases chars with
  | nil => exact h fuel hfuel
  | cons c chars =>
    rw [List.length_append, List.length_cons] at hfuel
    obtain ⟨fuel, rfl⟩ : ∃ n, fuel = n + 1 := ⟨fuel - 1, by omega⟩
    rw [elementsWithin_text hrest hchars]
    exact Blocked.text _ (h fuel (by omega))

theorem elementsWithin_nil (fuel : Nat) : elementsWithin fuel [] = [] := by
  cases fuel with
  | zero => rw [elementsWithin]
  | succ fuel => rw [elementsWithin]; simp

section AnyLibrary

variable [Library]

/-- Text that may be empty is read first. -/
theorem mapM_elementsWithin_text {chars rest : List Char} {parts : List Part}
    (hrest : OpensOutput rest) (hchars : '{' ∉ chars)
    (h : ∀ fuel, rest.length ≤ fuel →
      (elementsWithin fuel rest).mapM Element.part? = some parts) :
    ∀ fuel, (chars ++ rest).length ≤ fuel →
      (elementsWithin fuel (chars ++ rest)).mapM Element.part? =
        some (textParts chars ++ parts) := by
  intro fuel hfuel
  cases chars with
  | nil => exact h fuel hfuel
  | cons c chars =>
    rw [List.length_append, List.length_cons] at hfuel
    obtain ⟨fuel, rfl⟩ : ∃ n, fuel = n + 1 := ⟨fuel - 1, by omega⟩
    rw [elementsWithin_text hrest hchars, List.mapM_cons, h fuel (by omega)]
    rfl

/-- **Sound chunks are read as their parts.**  By induction on the chunks; text joins the text in
front of it. -/
theorem mapM_elementsWithin_source : ∀ (chunks : List Chunk), (∀ c ∈ chunks, c.Sound) →
    ∀ chars : List Char, '{' ∉ chars → ∀ fuel,
      (chars ++ chunks.flatMap Chunk.source).length ≤ fuel →
        (elementsWithin fuel (chars ++ chunks.flatMap Chunk.source)).mapM Element.part? =
          some (partsOf chars chunks)
  | [], _, chars, hchars => by
    have hnil : ∀ fuel, ([] : List Char).length ≤ fuel →
        (elementsWithin fuel []).mapM Element.part? = some [] := by
      intro fuel _
      rw [elementsWithin_nil]
      rfl
    intro fuel hfuel
    rw [partsOf, ← List.append_nil (textParts chars)]
    exact mapM_elementsWithin_text (Or.inl rfl) hchars hnil fuel hfuel
  | .text more :: chunks, hsound, chars, hchars => by
    intro fuel hfuel
    have hmore : '{' ∉ more := hsound (.text more) List.mem_cons_self
    rw [List.flatMap_cons, Chunk.source, ← List.append_assoc] at hfuel ⊢
    rw [partsOf]
    refine mapM_elementsWithin_source chunks (fun c hc => hsound c (List.mem_cons_of_mem _ hc))
      (chars ++ more) ?_ fuel hfuel
    rw [List.mem_append, not_or]
    exact ⟨hchars, hmore⟩
  | .output body chain :: chunks, hsound, chars, hchars => by
    obtain ⟨hhyphen, hread⟩ := hsound (.output body chain) List.mem_cons_self
    obtain ⟨calls, written, houtput, hchain⟩ := hread (chunks.flatMap Chunk.source)
    rw [flatMap_source_output, partsOf]
    refine mapM_elementsWithin_text (opensOutput_source hhyphen _) hchars fun fuel hfuel => ?_
    have hrest := mapM_elementsWithin_source chunks
      (fun c hc => hsound c (List.mem_cons_of_mem _ hc)) [] List.not_mem_nil
    simp only [List.length_cons, List.length_append] at hfuel
    obtain ⟨fuel, rfl⟩ : ∃ n, fuel = n + 1 := ⟨fuel - 1, by omega⟩
    rw [elementsWithin_output houtput, List.mapM_cons]
    have hpart : Element.part? (.output calls written) = some (.output chain) := by
      rw [Element.part?, hchain]
      rfl
    rw [hpart]
    have htail := hrest fuel (by rw [List.nil_append]; omega)
    rw [List.nil_append] at htail
    rw [htail]
    rfl

/-! ## Templates -/

/-- Text and outputs are read as their parts. -/
theorem readBlock_of_mapM : ∀ {elements : List Element} {parts : List Part},
    elements.mapM Element.part? = some parts → ∀ (fuel : Nat) (stops : List String),
      elements.length < fuel → readBlock fuel stops elements = some ⟨parts, none, []⟩
  | [], parts, h, fuel, stops, hfuel => by
    obtain ⟨fuel, rfl⟩ : ∃ n, fuel = n + 1 := ⟨fuel - 1, by omega⟩
    obtain rfl : [] = parts := Option.some_inj.mp h
    rw [readBlock]
  | element :: rest, parts, h, fuel, stops, hfuel => by
    rw [List.length_cons] at hfuel
    obtain ⟨fuel, rfl⟩ : ∃ n, fuel = n + 1 := ⟨fuel - 1, by omega⟩
    rw [List.mapM_cons] at h
    obtain ⟨part, hpart, h⟩ := Option.bind_eq_some_iff.mp h
    obtain ⟨others, hothers, h⟩ := Option.bind_eq_some_iff.mp h
    obtain rfl : part :: others = parts := Option.some_inj.mp h
    have hrest := readBlock_of_mapM hothers fuel stops (by omega)
    cases element with
    | text source =>
      obtain rfl : Part.text source = part := Option.some_inj.mp hpart
      rw [readBlock, hrest]
      rfl
    | output calls source =>
      obtain ⟨chain, hchain, rfl⟩ := Option.map_eq_some_iff.mp hpart
      rw [readBlock, hchain, hrest]
      rfl
    | tag name words source => exact absurd hpart (by simp [Element.part?])
    | stray c => exact absurd hpart (by simp [Element.part?])

/-- **A template of sound chunks is read as their parts.** -/
theorem read?_of_sound {chunks : List Chunk} (h : ∀ c ∈ chunks, c.Sound) :
    Template.read? (chunks.flatMap Chunk.source) = some (partsOf [] chunks) := by
  have hparts := mapM_elementsWithin_source chunks h [] List.not_mem_nil
    (chunks.flatMap Chunk.source).length (Nat.le_refl _)
  rw [List.nil_append] at hparts
  rw [Template.read?, Template.ofElements?, elements, readBlock_of_mapM hparts _ [] (by omega)]
  rfl

theorem Blocked.readBlock_eq_none {elements : List Element} (h : Blocked elements) :
    ∀ (fuel : Nat) (stops : List String), readBlock fuel stops elements = none := by
  induction h with
  | here c rest =>
    intro fuel stops
    cases fuel with
    | zero => rw [readBlock]
    | succ fuel => rw [readBlock]
  | text source _ ih =>
    intro fuel stops
    cases fuel with
    | zero => rw [readBlock]
    | succ fuel =>
      rw [readBlock, ih]
      rfl
  | output calls source _ ih =>
    intro fuel stops
    cases fuel with
    | zero => rw [readBlock]
    | succ fuel =>
      rw [readBlock, ih]
      cases Chain.ofCalls? calls with
      | none => rfl
      | some chain => rfl

/-- Chunks of which one is broken are blocked. -/
theorem blocked_source : ∀ (chunks : List Chunk), (∀ c ∈ chunks, c.Sound ∨ c.Broken) →
    (∃ c ∈ chunks, c.Broken) → ∀ chars : List Char, '{' ∉ chars → ∀ fuel,
      (chars ++ chunks.flatMap Chunk.source).length ≤ fuel →
        Blocked (elementsWithin fuel (chars ++ chunks.flatMap Chunk.source))
  | [], _, ⟨c, hc, _⟩, _, _ => absurd hc (by simp)
  | .text more :: chunks, hall, ⟨c, hc, hbroken⟩, chars, hchars => by
    intro fuel hfuel
    have hmore : '{' ∉ more :=
      (hall (.text more) List.mem_cons_self).elim id fun hfalse => hfalse.elim
    have hrest : ∃ c ∈ chunks, c.Broken := by
      rcases List.mem_cons.mp hc with rfl | hc
      · exact hbroken.elim
      · exact ⟨c, hc, hbroken⟩
    rw [List.flatMap_cons, Chunk.source, ← List.append_assoc] at hfuel ⊢
    refine blocked_source chunks (fun c hc => hall c (List.mem_cons_of_mem _ hc)) hrest
      (chars ++ more) ?_ fuel hfuel
    rw [List.mem_append, not_or]
    exact ⟨hchars, hmore⟩
  | .output body chain :: chunks, hall, ⟨c, hc, hbroken⟩, chars, hchars => by
    rw [flatMap_source_output]
    rcases hall (.output body chain) List.mem_cons_self with ⟨hhyphen, hread⟩ | ⟨hhyphen, hread⟩
    · obtain ⟨calls, written, houtput, -⟩ := hread (chunks.flatMap Chunk.source)
      by_cases hmore : ∃ c ∈ chunks, c.Broken
      · refine blocked_text (opensOutput_source hhyphen _) hchars fun fuel hfuel => ?_
        simp only [List.length_cons, List.length_append] at hfuel
        obtain ⟨fuel, rfl⟩ : ∃ n, fuel = n + 1 := ⟨fuel - 1, by omega⟩
        rw [elementsWithin_output houtput]
        have htail := blocked_source chunks (fun c hc => hall c (List.mem_cons_of_mem _ hc))
          hmore [] List.not_mem_nil fuel (by rw [List.nil_append]; omega)
        rw [List.nil_append] at htail
        exact Blocked.output calls written htail
      · rcases List.mem_cons.mp hc with rfl | hc
        · obtain ⟨-, hnone⟩ := hbroken
          exact absurd (houtput.symm.trans (hnone (chunks.flatMap Chunk.source))) (by simp)
        · exact absurd ⟨c, hc, hbroken⟩ hmore
    · refine blocked_text (opensOutput_source hhyphen _) hchars fun fuel hfuel => ?_
      simp only [List.length_cons] at hfuel
      obtain ⟨fuel, rfl⟩ : ∃ n, fuel = n + 1 := ⟨fuel - 1, by omega⟩
      have hhead : (body ++ '}' :: '}' :: chunks.flatMap Chunk.source).head? ≠ some '-' := by
        cases body with
        | nil => simp
        | cons d body => exact hhyphen
      rw [elementsWithin_broken (hread (chunks.flatMap Chunk.source)) hhead]
      exact Blocked.here '{' _

/-- **One broken output is enough to refuse a template.** -/
theorem read?_of_broken {chunks : List Chunk} (hall : ∀ c ∈ chunks, c.Sound ∨ c.Broken)
    (hbroken : ∃ c ∈ chunks, c.Broken) :
    Template.read? (chunks.flatMap Chunk.source) = none := by
  have hblocked := blocked_source chunks hall hbroken [] List.not_mem_nil
    (chunks.flatMap Chunk.source).length (Nat.le_refl _)
  rw [List.nil_append] at hblocked
  rw [Template.read?, Template.ofElements?, elements, hblocked.readBlock_eq_none]
  rfl

end AnyLibrary

/-! ## What is printed -/

/-- A progress that goes on without assignments after printing some text. -/
theorem renderParts_text_append (scope : Scope) {p : Progress} (hp : p.interrupted = none)
    (chars : List Char) (rest : List Part) :
    renderParts scope p (textParts chars ++ rest) =
      renderParts scope (p.print (String.ofList chars)) rest := by
  rw [textParts]
  cases chars with
  | nil =>
    have hprint : p.print (String.ofList []) = p := by
      rw [Progress.print, String.ofList_nil, String.append_empty]
    rw [hprint]
    rfl
  | cons c chars =>
    rw [if_neg (by simp), List.singleton_append, renderParts, Part.render]
    simp only [Progress.print, hp]
    rfl

/-- **The parts of chunks print what the chunks print**, one after another. -/
theorem renderParts_partsOf {scope : Scope} : ∀ {chunks : List Chunk} {outs : List String},
    chunks.mapM (Chunk.print? scope) = some outs → ∀ (chars : List Char) (p : Progress),
      p.interrupted = none → p.assigned = [] →
        renderParts scope p (partsOf chars chunks) =
          some (p.print (String.ofList chars ++ Text.concat outs))
  | [], outs, h, chars, p, hp, _ => by
    obtain rfl : [] = outs := Option.some_inj.mp h
    rw [partsOf, ← List.append_nil (textParts chars), renderParts_text_append scope hp, renderParts,
      Text.concat_nil, String.append_empty]
  | chunk :: chunks, outs, h, chars, p, hp, hassigned => by
    rw [List.mapM_cons] at h
    obtain ⟨out, hout, h⟩ := Option.bind_eq_some_iff.mp h
    obtain ⟨others, hothers, h⟩ := Option.bind_eq_some_iff.mp h
    obtain rfl : out :: others = outs := Option.some_inj.mp h
    rw [Text.concat_cons]
    cases chunk with
    | text more =>
      obtain rfl : String.ofList more = out := Option.some_inj.mp hout
      rw [partsOf, renderParts_partsOf hothers (chars ++ more) p hp hassigned, String.ofList_append,
        String.append_assoc]
    | output body chain =>
      obtain ⟨v, hv, rfl⟩ := Option.map_eq_some_iff.mp hout
      have hrest := renderParts_partsOf hothers []
        ((p.print (String.ofList chars)).print v.text) hp hassigned
      rw [partsOf, renderParts_text_append scope hp, renderParts, Part.render]
      have hassigned' : (p.print (String.ofList chars)).assigned = [] := hassigned
      rw [hassigned', hv, Option.map_some]
      have hinterrupted :
          ((p.print (String.ofList chars)).print v.text).interrupted.isSome = false := by
        show p.interrupted.isSome = false
        rw [hp]
        rfl
      simp only [hinterrupted]
      refine hrest.trans ?_
      rw [String.ofList_nil, String.empty_append]
      simp only [Progress.print, String.append_assoc]

/-- A template of chunks prints what its chunks print. -/
theorem render_partsOf {displayKey : String} {data : Node} {chunks : List Chunk}
    {outs : List String} (h : chunks.mapM (Chunk.print? ⟨data, displayKey, []⟩) = some outs) :
    Template.render displayKey data (partsOf [] chunks) = some (Text.concat outs) := by
  rw [Template.render, renderParts_partsOf h [] .start rfl rfl]
  show some ("" ++ (String.ofList [] ++ Text.concat outs)) = _
  rw [String.ofList_nil, String.empty_append, String.empty_append]

end Liquid

end TagTemplates
