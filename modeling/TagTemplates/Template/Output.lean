import TagTemplates.Template.Expansion

/-!
# Outputs of the engine

Authors also write the engine's own outputs, `{{ user }}`.  So that records and lists print in them
as they do in tags, every output that does not end in the fallback filter gets one.

A text is cut into pieces: plain text, tags `{% … %}`, raw blocks, outputs `{{ … }}`, and the rest
from a marker that is never closed.  Markers inside string literals do not count, except inside a
raw block.

* `pieces` cuts a text.
* `finalizeBody` is what happens to the inside of an output.
* `finalizeOutputs` puts the pieces together again, the outputs finalized.
-/

namespace TagTemplates

/-- A piece of text as the engine's markers cut it. -/
inductive Piece where
  /-- Text up to an opening marker, or a single brace. -/
  | plain (chars : List Char)
  /-- A tag, by the text between its markers. -/
  | tag (body : List Char)
  /-- A raw block, by the text between the markers of its opening tag and the text from there to
  the end of its closing tag. -/
  | raw (opening block : List Char)
  /-- An output, by the text between its markers. -/
  | output (body : List Char)
  /-- The text from a marker that is never closed. -/
  | unclosed (chars : List Char)
  deriving DecidableEq, Repr

/-- The text of a piece. -/
def Piece.source : Piece → List Char
  | plain chars => chars
  | tag body => '{' :: '%' :: body ++ ['%', '}']
  | raw opening block => '{' :: '%' :: opening ++ '%' :: '}' :: block
  | output body => '{' :: '{' :: body ++ ['}', '}']
  | unclosed chars => chars

/-! ## Finding the end of a marker -/

/-- Cut at the first pair `a b` outside string literals: the text before and after the pair. -/
def cutUnquoted (a b : Char) (quote : Option Char) : List Char → Option (List Char × List Char)
  | [] => none
  | c :: cs =>
    match quote with
    | some q =>
      (cutUnquoted a b (if c = q then none else some q) cs).map fun (u, v) => (c :: u, v)
    | none =>
      if c = '\'' ∨ c = '"' then (cutUnquoted a b (some c) cs).map fun (u, v) => (c :: u, v)
      else if c = a ∧ cs.head? = some b then some ([], cs.drop 1)
      else (cutUnquoted a b none cs).map fun (u, v) => (c :: u, v)

/-- Cut at the first pair `a b`: the text before and after the pair. -/
def cutPair (a b : Char) : List Char → Option (List Char × List Char)
  | [] => none
  | c :: cs =>
    if c = a ∧ cs.head? = some b then some ([], cs.drop 1)
    else (cutPair a b cs).map fun (u, v) => (c :: u, v)

theorem cutUnquoted_length {a b : Char} {quote : Option Char} {cs u v : List Char}
    (h : cutUnquoted a b quote cs = some (u, v)) : v.length < cs.length := by
  induction cs generalizing quote u with
  | nil => simp [cutUnquoted] at h
  | cons c cs ih =>
    unfold cutUnquoted at h
    split at h
    · simp only [Option.map_eq_some_iff, Prod.mk.injEq, Prod.exists] at h
      obtain ⟨u', v', h1, -, rfl⟩ := h
      have := ih h1
      simp only [List.length_cons]
      omega
    · split at h
      · simp only [Option.map_eq_some_iff, Prod.mk.injEq, Prod.exists] at h
        obtain ⟨u', v', h1, -, rfl⟩ := h
        have := ih h1
        simp only [List.length_cons]
        omega
      · split at h
        · simp only [Option.some.injEq, Prod.mk.injEq] at h
          rw [← h.2, List.length_drop, List.length_cons]
          omega
        · simp only [Option.map_eq_some_iff, Prod.mk.injEq, Prod.exists] at h
          obtain ⟨u', v', h1, -, rfl⟩ := h
          have := ih h1
          simp only [List.length_cons]
          omega

theorem cutPair_length {a b : Char} {cs u v : List Char} (h : cutPair a b cs = some (u, v)) :
    v.length < cs.length := by
  induction cs generalizing u with
  | nil => simp [cutPair] at h
  | cons c cs ih =>
    unfold cutPair at h
    split at h
    · simp only [Option.some.injEq, Prod.mk.injEq] at h
      rw [← h.2, List.length_drop, List.length_cons]
      omega
    · simp only [Option.map_eq_some_iff, Prod.mk.injEq, Prod.exists] at h
      obtain ⟨u', v', h1, -, rfl⟩ := h
      have := ih h1
      simp only [List.length_cons]
      omega

/-! ## Raw blocks -/

/-- The word of a tag body, without the dashes and the white space around it. -/
def tagWord (body : List Char) : List Char :=
  Text.trimBoth (fun c => c == '-' || Text.isSpace c) body

set_option linter.unusedVariables false in
/-- The text of a raw block up to the end of its closing tag, and the text after it; without a
closing tag the block takes the whole text.  String literals do not count here. -/
def cutRawBlock (cs : List Char) : Except Abort (List Char × List Char) :=
  match ho : cutPair '{' '%' cs with
  | none => .ok (cs, [])
  | some (before, inside) =>
    if inside.head? = some '}' then .error .overlappingMarkers
    else
      match hc : cutPair '%' '}' inside with
      | none => .ok (cs, [])
      | some (body, after) =>
        let taken := before ++ '{' :: '%' :: body ++ ['%', '}']
        if tagWord body = "endraw".toList then .ok (taken, after)
        else
          match cutRawBlock after with
          | .error e => .error e
          | .ok (block, rest) => .ok (taken ++ block, rest)
termination_by cs.length
decreasing_by
  have h1 := cutPair_length ho
  have h2 := cutPair_length hc
  omega

theorem cutRawBlock_length {cs block rest : List Char}
    (h : cutRawBlock cs = .ok (block, rest)) : rest.length ≤ cs.length := by
  induction hn : cs.length using Nat.strongRecOn generalizing cs block rest with
  | _ n ih =>
    rw [cutRawBlock] at h
    split at h
    · simp_all
    · rename_i before inside ho
      have h1 := cutPair_length ho
      split at h
      · simp at h
      · split at h
        · simp_all
        · rename_i body after hc
          have h2 := cutPair_length hc
          simp only at h
          split at h
          · simp only [Except.ok.injEq, Prod.mk.injEq] at h
            rw [← h.2]
            omega
          · split at h
            · simp at h
            · rename_i block' rest' hr
              simp only [Except.ok.injEq, Prod.mk.injEq] at h
              have := ih after.length (by omega) hr rfl
              rw [← h.2]
              omega

/-! ## Pieces -/

set_option linter.unusedVariables false in
/-- Cut a text at the engine's markers. -/
def pieces (cs : List Char) : Except Abort (List Piece) :=
  match cs with
  | [] => .ok []
  | '{' :: '{' :: inside =>
    match hc : cutUnquoted '}' '}' none inside with
    | none => .ok [.unclosed ('{' :: '{' :: inside)]
    | some (body, after) =>
      match pieces after with
      | .error e => .error e
      | .ok rest => .ok (.output body :: rest)
  | '{' :: '%' :: inside =>
    match hc : cutUnquoted '%' '}' none inside with
    | none => .ok [.unclosed ('{' :: '%' :: inside)]
    | some (body, after) =>
      if tagWord body = "raw".toList then
        match hr : cutRawBlock after with
        | .error e => .error e
        | .ok (block, after) =>
          match pieces after with
          | .error e => .error e
          | .ok rest => .ok (.raw body block :: rest)
      else
        match pieces after with
        | .error e => .error e
        | .ok rest => .ok (.tag body :: rest)
  | c :: cs =>
    match pieces cs with
    | .error e => .error e
    | .ok (.plain chars :: rest) => .ok (.plain (c :: chars) :: rest)
    | .ok rest => .ok (.plain [c] :: rest)
termination_by cs.length
decreasing_by
  · have := cutUnquoted_length hc
    simp only [List.length_cons]
    omega
  · have h1 := cutUnquoted_length hc
    have h2 := cutRawBlock_length hr
    simp only [List.length_cons]
    omega
  · have := cutUnquoted_length hc
    simp only [List.length_cons]
    omega
  · simp

/-! ## Finalizing -/

/-- The text after the last bar outside string literals. -/
def lastFilter (quote : Option Char) (last : Option (List Char)) :
    List Char → Option (List Char)
  | [] => last
  | c :: cs =>
    match quote with
    | some q => lastFilter (if c = q then none else some q) last cs
    | none =>
      if c = '\'' ∨ c = '"' then lastFilter (some c) last cs
      else if c = '|' then lastFilter none (some cs) cs
      else lastFilter none last cs

/-- Whether a filter is the fallback filter. -/
def isFallbackFilter (filter : List Char) : Bool :=
  fallbackFilter.toList.isPrefixOf filter &&
    match filter.drop fallbackFilter.toList.length with
    | [] => true
    | c :: _ => c == ':' || Text.isBlank c

/-- Whether an output body ends in the fallback filter. -/
def endsInFallback (body : List Char) : Bool :=
  (lastFilter none none body).any fun filter => isFallbackFilter (Text.trim filter)

/-- Whether an output body holds nothing but dashes at its beginning and white space. -/
def isHollow (body : List Char) : Bool :=
  (Text.trim ((Text.trim body).dropWhile (· == '-'))).isEmpty

/-- An output body without its closing dash, and whether there is one. -/
def splitTrimMark (inner : List Char) : List Char × Bool :=
  if inner.getLast? = some '-' then (inner.dropLast, true) else (inner, false)

/-- The inside of an output after finalization. -/
def finalizeBody (inner : List Char) : List Char :=
  let (body, mark) := splitTrimMark inner
  if endsInFallback body || isHollow body then inner
  else
    Text.dropWhileEnd Text.isSpace body ++ " | ".toList ++ fallbackFilter.toList ++ ": '' ".toList
      ++ (if mark then ['-'] else [])

/-- A piece after finalization: outputs end in the fallback filter, all else is unchanged. -/
def Piece.finalize : Piece → Piece
  | output body => output (finalizeBody body)
  | piece => piece

/-- Let every output of a text end in the fallback filter. -/
def finalizeOutputs (text : List Char) : Except Abort (List Char) :=
  match pieces text with
  | .error e => .error e
  | .ok ps => .ok (ps.flatMap fun p => p.finalize.source)

end TagTemplates
