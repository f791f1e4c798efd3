import TagTemplates.Proofs.Liquid.Reading
import TagTemplates.Proofs.Tag.Grammar

/-!
# Which tags are read back

A tag may name anything with letters, digits and underscores, while a variable begins with a letter
or an underscore and a literal word is read before any variable.  So of the paths that tags are read
as, the template language reads back those that respect its own rules, and no other.

* `Path.variable`: what the variable of a path should be read as.
* `Path.ReadsBack`: the names respect the rules of the template language.
* `Step.SpelledBy.exists_digit`: a name that does not begin like a variable begins with a digit.
* `readValue_of_isDigit`, `readValue_of_word`, `readValue_expression_append`: what is read instead.
* `readValue_expression_iff`: exactly the paths that respect the rules are read back.
-/

namespace TagTemplates

open Liquid

/-- What the variable of a path should be read as: its root, and all further names and indices in
order. -/
def Path.variable (path : Path) : Expression :=
  .lookup path.root.name (bracketIndices path.root.index ++ path.rest.flatMap stepIndices)

/-- A name begins like a variable. -/
def Step.beginsVariable (s : Step) : Bool := Text.beginsIn TagTemplates.beginsVariable s.name.toList

/-- Every name of this path begins like a variable, and its root begins with no literal word. -/
structure Path.ReadsBack (path : Path) : Prop where
  names : ∀ s ∈ path.steps, s.beginsVariable = true
  root : beginsWithWord path.root.name = false

instance : DecidablePred Path.ReadsBack := fun path =>
  decidable_of_iff ((∀ s ∈ path.steps, s.beginsVariable = true) ∧
    beginsWithWord path.root.name = false) ⟨fun h => ⟨h.1, h.2⟩, fun h => ⟨h.names, h.root⟩⟩

/-! ## The steps of a tag -/

variable {s : Step} {path : Path} {cs written : List Char}

/-- A run of name characters is one, folded. -/
theorem Run.foldChars (h : Run Text.isNameChar cs) : Run Text.isNameChar (Text.foldChars cs) := by
  rw [Text.foldChars]
  refine ⟨by simpa using h.ne_nil, fun c hc => ?_⟩
  obtain ⟨d, hd, rfl⟩ := List.mem_map.mp hc
  exact (Text.isNameChar_toLower_iff d).mpr (h.all d hd)

/-- The name of a step is made of name characters. -/
theorem Step.SpelledBy.run_name (h : s.SpelledBy written) : Run Text.isNameChar s.name.toList := by
  obtain ⟨hname, -⟩ := h
  rw [Step.make, Text.toList_fold, String.toList_ofList]
  exact hname.foldChars

theorem Step.SpelledBy.index_lt (h : s.SpelledBy written) :
    ∀ i, s.index = some i → i < maxIndex := by
  obtain ⟨-, hindex⟩ := h
  intro i hi
  cases hindex with
  | absent => exact absurd hi (by simp [Step.make])
  | written _ _ _ hpos hmax =>
    obtain rfl := Option.some_inj.mp hi
    omega

/-- The steps of a tag are spelled. -/
theorem exists_spelledBy_of_readTag (h : Path.readTag cs = .ok path) :
    ∀ s ∈ path.steps, ∃ written, s.SpelledBy written := by
  obtain ⟨inner, -, hspelled⟩ := readTag_eq_ok_iff.mp h
  exact SpellsSteps.exists_spelledBy hspelled

/-- A step of a tag whose name begins like a variable can stand in one. -/
theorem Step.SpelledBy.readable (h : s.SpelledBy written) (hbegins : s.beginsVariable = true) :
    s.Readable := by
  refine ⟨Bool.and_eq_true_iff.mpr ⟨hbegins, List.all_eq_true.mpr h.run_name.all⟩, fun i hi => ?_⟩
  have hbound := h.index_lt i hi
  rw [maxIndex] at hbound
  rw [Number.signedLimit]
  omega

/-- A step of a tag whose name does not begin like a variable begins with a digit. -/
theorem Step.SpelledBy.exists_digit (h : s.SpelledBy written) (hbegins : s.beginsVariable = false) :
    ∃ d more, s.name.toList = d :: more ∧ d.isDigit = true := by
  obtain ⟨c, more, hname, hc⟩ := h.run_name.exists_cons
  refine ⟨c, more, hname, ?_⟩
  rw [Step.beginsVariable, hname] at hbegins
  have hnot : TagTemplates.beginsVariable c = false := hbegins
  rw [TagTemplates.beginsVariable, Bool.or_eq_false_iff] at hnot
  rw [Text.isNameChar, Char.isAlphanum, hnot.1, hnot.2] at hc
  simpa using hc

/-- The steps of a tag that reads back can stand in a variable. -/
theorem Path.ReadsBack.readable (hpath : path.ReadsBack) (h : Path.readTag cs = .ok path) :
    ∀ s ∈ path.steps, s.Readable := by
  intro s hs
  obtain ⟨written, hspelled⟩ := exists_spelledBy_of_readTag h s hs
  exact hspelled.readable (hpath.names s hs)

/-! ## What is read instead -/

namespace Liquid

/-- No name begins with a digit. -/
theorem readName_of_isDigit {d : Char} (h : d.isDigit = true) (cs : List Char) :
    readName (d :: cs) = none := by
  have hhyphen : d ≠ '-' := by
    rintro rfl
    exact absurd h (by decide)
  have hunder : d ≠ '_' := by
    rintro rfl
    exact absurd h (by decide)
  have hstarts : startsName d cs = false := by
    rw [startsName, isAlpha_eq_false_of_isDigit h, beq_eq_false_iff_ne.mpr hhyphen,
      beq_eq_false_iff_ne.mpr hunder]
    rfl
  rw [readName, hstarts]
  rfl

/-- **A root that begins with a digit is no variable**: it is read as a number or not at all. -/
theorem readValue_of_isDigit {d : Char} (h : d.isDigit = true) (cs : List Char) {root : String}
    {indices : List Expression} {rest : List Char} :
    readValue (d :: cs) ≠ some (.lookup root indices, rest) := by
  intro hread
  rw [readValue, readValueWithin, readName_of_isDigit h] at hread
  cases hliteral : readLiteral (d :: cs) with
  | some found =>
    simp only [hliteral] at hread
    exact absurd hread (by simp)
  | none =>
    simp only [hliteral] at hread
    exact absurd hread (by simp)

/-- **A root that begins with a literal word is no variable**: the word is read. -/
theorem readValue_of_word {name : String} (h : readableName name = true)
    (hwords : beginsWithWord name = true) (cs : List Char) {root : String}
    {indices : List Expression} {rest : List Char} :
    readValue (name.toList ++ cs) ≠ some (.lookup root indices, rest) := by
  obtain ⟨word, hword, hprefix⟩ := List.any_eq_true.mp hwords
  obtain ⟨w, hw, rfl⟩ := List.mem_map.mp hword
  have hfront : w.1.toList <+: name.toList ++ cs :=
    (List.isPrefixOf_iff_prefix.mp hprefix).trans (List.prefix_append _ _)
  obtain ⟨c, run, hcons, hbegins, -⟩ := exists_cons_of_readableName h
  rw [hcons, List.cons_append] at hfront ⊢
  obtain ⟨found, hfound⟩ :=
    Option.isSome_iff_exists.mp (readLiteral_isSome (List.mem_append.mp hw) hbegins hfront)
  intro hread
  rw [readValue, readValueWithin, hfound] at hread
  exact absurd hread (by simp)

/-- A variable does not go on with a name that begins with a digit. -/
theorem stopsVariable_of_isDigit {d : Char} (h : d.isDigit = true) (more : List Char) :
    StopsVariable ('.' :: d :: more) := by
  refine ⟨fun c hc => ?_, fun fuel => ?_⟩
  · obtain rfl : '.' = c := Option.some_inj.mp hc
    decide
  · cases fuel with
    | zero => rw [readIndicesWithin]
    | succ fuel => rw [readIndicesWithin, readName_of_isDigit h]

/-- The variable of a path, cut in front of one of its steps. -/
theorem expression_append (root : Step) (front back : List Step) :
    (Path.mk root (front ++ back)).expression =
      (Path.mk root front).expression ++ stepsBelowSource back := by
  rw [expression_path_eq, expression_path_eq, stepsBelowSource, List.flatMap_append]
  simp only [List.append_assoc, stepsBelowSource]

/-- **A path is read back up to the first name that begins with a digit**, and what follows is left
behind. -/
theorem readValue_expression_append {root bad : Step} {front back : List Step}
    (hfront : ∀ s ∈ root :: front, s.Readable) (hwords : beginsWithWord root.name = false) {d : Char}
    {more : List Char} (hbad : bad.name.toList = d :: more) (hd : d.isDigit = true)
    (rest : List Char) :
    readValue ((Path.mk root (front ++ bad :: back)).expression ++ rest) =
      some ((Path.mk root front).variable, stepsBelowSource (bad :: back) ++ rest) := by
  have hstops : StopsVariable (stepsBelowSource (bad :: back) ++ rest) := by
    rw [stepsBelowSource, List.flatMap_cons, expression_eq, hbad]
    exact stopsVariable_of_isDigit hd _
  rw [expression_append, List.append_assoc]
  exact readValue_expression (p := ⟨root, front⟩) hfront hwords hstops

end Liquid

/-- The first name that does not begin like a variable, if there is one. -/
theorem exists_first_of_beginsVariable (steps : List Step) :
    (∀ s ∈ steps, s.beginsVariable = true) ∨
      ∃ front bad back, steps = front ++ bad :: back ∧
        (∀ s ∈ front, s.beginsVariable = true) ∧ bad.beginsVariable = false := by
  cases hfound : steps.find? fun s => !s.beginsVariable with
  | none =>
    refine Or.inl fun s hs => ?_
    simpa using List.find?_eq_none.mp hfound s hs
  | some bad =>
    obtain ⟨hbad, front, back, hsteps, hfront⟩ := List.find?_eq_some_iff_append.mp hfound
    exact Or.inr ⟨front, bad, back, hsteps, fun s hs => by simpa using hfront s hs,
      by simpa using hbad⟩

/-- **A tag is read back exactly when it respects the rules of the template language**: when every
name begins with a letter or an underscore and the root begins with no literal word. -/
theorem readValue_expression_iff (h : Path.readTag cs = .ok path) {rest : List Char}
    (hrest : endsPath rest = true) :
    readValue (path.expression ++ rest) = some (path.variable, rest) ↔ path.ReadsBack := by
  constructor
  · intro hread
    have hspelled := exists_spelledBy_of_readTag h
    obtain ⟨root, steps⟩ := path
    obtain ⟨written, hroot⟩ := hspelled root List.mem_cons_self
    -- the root: a digit or a literal word at its front is read as a literal
    have hbegins : root.beginsVariable = true := by
      by_contra hnot
      obtain ⟨d, more, hname, hd⟩ := hroot.exists_digit (by simpa using hnot)
      rw [expression_path_eq, hname] at hread
      exact readValue_of_isDigit hd _ hread
    have hreadable := hroot.readable hbegins
    have hwords : beginsWithWord root.name = false := by
      by_contra hnot
      rw [expression_path_eq, List.append_assoc] at hread
      exact readValue_of_word hreadable.name (by simpa using hnot) _ hread
    refine ⟨?_, hwords⟩
    -- the steps below it: what follows a digit is left behind
    rcases exists_first_of_beginsVariable steps with hall | ⟨front, bad, back, rfl, hfront, hbad⟩
    · exact List.forall_mem_cons.mpr ⟨hbegins, hall⟩
    · obtain ⟨written', hspell⟩ := hspelled bad
        (List.mem_cons_of_mem root (List.mem_append_right front List.mem_cons_self))
      obtain ⟨d, more, hname, hd⟩ := hspell.exists_digit hbad
      have hsteps : ∀ s ∈ root :: front, s.Readable := by
        refine List.forall_mem_cons.mpr ⟨hreadable, fun s hs => ?_⟩
        obtain ⟨written'', hs'⟩ :=
          hspelled s (List.mem_cons_of_mem root (List.mem_append_left _ hs))
        exact hs'.readable (hfront s hs)
      rw [readValue_expression_append hsteps hwords hname hd] at hread
      have hleft := (Prod.mk.inj (Option.some_inj.mp hread)).2
      exact absurd (List.append_left_eq_self.mp hleft) (by simp [stepsBelowSource])
  · intro hpath
    exact readValue_expression (hpath.readable h) hpath.root (stopsVariable_of_endsPath hrest)

end TagTemplates
