import TagTemplates.Tag.Path
import TagTemplates.Tag.Fault

/-!
# Reading tags and paths

The grammar of a tag is

* `tag   := '{' path '}'`
* `path  := attr ('.' attr)*`
* `attr  := name (':' index)?`
* `name  := [A-Za-z0-9_]+`, folded to lower case
* `index := [0-9]+`, counted from one and stored from zero

Blanks may surround `.` and `:`.  A bare path may also have blanks at its ends; a tag may not have
any next to its braces.

* `readPath` reads a bare path from a text or stops at its first fault.
* `Path.read` and `Path.readTag` are the readers with offsets.
* `readPartial` reads as many steps as possible and ignores what follows them, for text that is
  still being typed.
-/

namespace TagTemplates

/-- The largest number that an author may write as an index. -/
def maxIndex : Nat := 4294967295

def skipBlanks (cs : List Char) : List Char := cs.dropWhile Text.isBlank

/-- The characters that are reported as the text of an index that is not a number. -/
def isIndexText (c : Char) : Bool := !Text.isBlank c && c != '.' && c != '}'

theorem skipBlanks_length_le (cs : List Char) : (skipBlanks cs).length ≤ cs.length :=
  (List.dropWhile_sublist _).length_le

/-! ## One step -/

/-- Read an index, counted from one, as one counted from zero. -/
def readIndex (cs : List Char) : Except Fault (Nat × List Char) :=
  let digits := cs.takeWhile Char.isDigit
  if digits.isEmpty then
    let junk := cs.takeWhile isIndexText
    if junk.isEmpty then .error ⟨.missingIndex, cs⟩
    else .error ⟨.invalidIndex (String.ofList junk), cs⟩
  else
    let value := Text.digitsValue digits
    if maxIndex < value then .error ⟨.invalidIndex (String.ofList digits), cs⟩
    else if value = 0 then .error ⟨.nonPositiveIndex, cs⟩
    else .ok (value - 1, cs.dropWhile Char.isDigit)

/-- Read the index of a step, if there is one. -/
def readIndexPart (cs : List Char) : Except Fault (Option Nat × List Char) :=
  match skipBlanks cs with
  | ':' :: rest =>
    match readIndex (skipBlanks rest) with
    | .error f => .error f
    | .ok (index, rest) => .ok (some index, rest)
  | rest => .ok (none, rest)

/-- Read a step. -/
def readStep (cs : List Char) : Except Fault (Step × List Char) :=
  let name := cs.takeWhile Text.isNameChar
  if name.isEmpty then .error ⟨.emptyName, cs⟩
  else
    match readIndexPart (cs.dropWhile Text.isNameChar) with
    | .error f => .error f
    | .ok (index, rest) => .ok (Step.make (String.ofList name) index, rest)

theorem readIndex_length_le {cs rest : List Char} {i : Nat} (h : readIndex cs = .ok (i, rest)) :
    rest.length ≤ cs.length := by
  unfold readIndex at h
  simp only at h
  split at h
  · split at h <;> simp at h
  · split at h
    · simp at h
    · split at h
      · simp at h
      · simp only [Except.ok.injEq, Prod.mk.injEq] at h
        rw [← h.2]
        exact (List.dropWhile_sublist _).length_le

theorem readIndexPart_length_le {cs rest : List Char} {i : Option Nat}
    (h : readIndexPart cs = .ok (i, rest)) : rest.length ≤ cs.length := by
  have hs := skipBlanks_length_le cs
  unfold readIndexPart at h
  split at h
  · rename_i more hm
    split at h
    · simp at h
    · rename_i index rest' hi
      simp only [Except.ok.injEq, Prod.mk.injEq] at h
      have h1 := readIndex_length_le hi
      have h2 := skipBlanks_length_le more
      rw [hm, List.length_cons] at hs
      rw [← h.2]
      omega
  · simp only [Except.ok.injEq, Prod.mk.injEq] at h
    rw [← h.2]
    exact hs

/-- A step takes at least one character. -/
theorem readStep_length_lt {cs rest : List Char} {s : Step} (h : readStep cs = .ok (s, rest)) :
    rest.length < cs.length := by
  unfold readStep at h
  simp only at h
  split at h
  · simp at h
  · rename_i hn
    split at h
    · simp at h
    · rename_i index rest' hi
      simp only [Except.ok.injEq, Prod.mk.injEq] at h
      have h1 := readIndexPart_length_le hi
      have h2 := congrArg List.length (List.takeWhile_append_dropWhile (p := Text.isNameChar) (l := cs))
      have h3 : 0 < (cs.takeWhile Text.isNameChar).length := by
        rw [List.length_pos_iff]
        simpa using hn
      rw [List.length_append] at h2
      rw [← h.2]
      omega

/-! ## Paths -/

set_option linter.unusedVariables false in
/-- Read the steps of a path that begins right here and takes up the whole text. -/
def readSteps (cs : List Char) : Except Fault (Step × List Step) :=
  match hs : readStep cs with
  | .error f => .error f
  | .ok (step, rest) =>
    match hr : skipBlanks rest with
    | [] => .ok (step, [])
    | c :: more =>
      if c = '.' then
        match readSteps (skipBlanks more) with
        | .error f => .error f
        | .ok (next, steps) => .ok (step, next :: steps)
      else .error ⟨.unexpected c, c :: more⟩
termination_by cs.length
decreasing_by
  have h1 := readStep_length_lt hs
  have h2 := skipBlanks_length_le rest
  have h3 := skipBlanks_length_le more
  rw [hr, List.length_cons] at h2
  omega

/-- The reader of steps, without the proofs that it ends. -/
theorem readSteps_eq (cs : List Char) : readSteps cs =
    match readStep cs with
    | .error f => .error f
    | .ok (step, rest) =>
      match skipBlanks rest with
      | [] => .ok (step, [])
      | c :: more =>
        if c = '.' then (readSteps (skipBlanks more)).map fun e => (step, e.1 :: e.2)
        else .error ⟨.unexpected c, c :: more⟩ := by
  rw [readSteps]
  split
  · next f hs => rw [hs]
  · next step rest hs =>
    rw [hs]
    simp only
    split
    · next hr => rw [hr]
    · next c more hr =>
      rw [hr]
      simp only
      split
      · cases readSteps (skipBlanks more) <;> rfl
      · rfl

/-- Read a bare path with blanks around it. -/
def readPath (cs : List Char) : Except Fault Path :=
  match readSteps (skipBlanks cs) with
  | .error f => .error f
  | .ok (root, rest) => .ok ⟨root, rest⟩

/-- Read a bare path such as `user.dogs:1.name`. -/
def Path.read (cs : List Char) : Except TagError Path :=
  match readPath cs with
  | .error f => .error (f.at cs)
  | .ok path => .ok path

/-- The text between a brace at the beginning and a brace at the end. -/
def inBraces? : List Char → Option (List Char)
  | '{' :: rest => if rest.getLast? = some '}' then some rest.dropLast else none
  | _ => none

/-- Read a complete tag such as `{user.dogs:1.name}`.  A blank next to a brace is reported as a
space, whichever blank it is. -/
def Path.readTag (cs : List Char) : Except TagError Path :=
  match inBraces? cs with
  | none => .error ⟨0, .missingBraces⟩
  | some inner =>
    if Text.beginsIn Text.isBlank inner then .error ⟨1, .unexpected ' '⟩
    else if Text.endsIn Text.isBlank inner then .error ⟨Text.utf8Size inner, .unexpected ' '⟩
    else
      match readPath inner with
      | .error f => .error ((f.before ['}']).at cs)
      | .ok path => .ok path

/-! ## Text that is still being typed -/

set_option linter.unusedVariables false in
/-- Read as many steps as possible from here on. -/
def readPartialSteps (cs : List Char) : List Step :=
  let name := cs.takeWhile Text.isNameChar
  if hn : name = [] then []
  else
    let folded := Text.fold (String.ofList name)
    match hp : readIndexPart (cs.dropWhile Text.isNameChar) with
    | .error _ => [⟨folded, none⟩]
    | .ok (index, rest) =>
      match hr : skipBlanks rest with
      | '.' :: more => ⟨folded, index⟩ :: readPartialSteps (skipBlanks more)
      | _ => [⟨folded, index⟩]
termination_by cs.length
decreasing_by
  have h1 := readIndexPart_length_le hp
  have h2 := congrArg List.length (List.takeWhile_append_dropWhile (p := Text.isNameChar) (l := cs))
  have h3 : 0 < (cs.takeWhile Text.isNameChar).length := List.length_pos_iff.mpr hn
  have h4 := skipBlanks_length_le rest
  have h5 := skipBlanks_length_le more
  rw [List.length_append] at h2
  rw [hr, List.length_cons] at h4
  omega

/-- The steps of a path that is still being typed: `user.dogs:` gives `user` and `dogs`, and
`user.` gives `user`. -/
def readPartial (cs : List Char) : List Step := readPartialSteps (Text.trim cs)

end TagTemplates
