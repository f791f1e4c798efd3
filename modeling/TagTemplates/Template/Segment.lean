import TagTemplates.Tag.Reader

/-!
# Segments of a template

A template is cut into literal text and tags.  An opening brace begins a tag only when a name
character follows it directly; then everything up to the closing brace has to be text that may
stand in a tag.  All other braces are literal text, so the engine's own markers and the braces of
prose pass through untouched.

* `candidate` decides what an opening brace is.
* `scan` cuts a text into segments, or stops at the first tag that is at fault.
* `Segment.source` is the text of a segment; the segments of a text concatenate to it.
-/

namespace TagTemplates

/-- A piece of template text. -/
inductive Segment where
  | text (chars : List Char)
  | tag (path : Path) (source : List Char)
  deriving DecidableEq, Repr

namespace Segment

/-- The text that a segment was cut from. -/
def source : Segment → List Char
  | text chars => chars
  | tag _ source => source

/-- Put a literal character in front of a list of segments. -/
def consChar (c : Char) : List Segment → List Segment
  | text chars :: rest => text (c :: chars) :: rest
  | rest => text [c] :: rest

end Segment

/-- The characters that may stand between the braces of a tag. -/
def isTagChar (c : Char) : Bool := Text.isNameChar c || c == '.' || c == ':' || Text.isBlank c

/-- What an opening brace is, judged by the text after it. -/
inductive Candidate where
  /-- The brace is literal text. -/
  | literal
  /-- The tag never ends. -/
  | unterminated
  /-- The text between the braces, and the text after them. -/
  | closed (inner after : List Char)
  deriving DecidableEq, Repr

/-- Judge an opening brace by the text after it. -/
def candidate (body : List Char) : Candidate :=
  if Text.beginsIn Text.isNameChar body then
    match body.dropWhile isTagChar with
    | [] => .unterminated
    | c :: after =>
      let inner := body.takeWhile isTagChar
      if c = '}' ∧ Text.endsIn Text.isBlank inner = false then .closed inner after
      else .literal
  else .literal

theorem after_length_le_of_candidate {body inner after : List Char}
    (h : candidate body = .closed inner after) : after.length ≤ body.length := by
  unfold candidate at h
  split at h
  · split at h
    · simp at h
    · rename_i c rest hd
      simp only at h
      split at h
      · simp only [Candidate.closed.injEq] at h
        have h1 := (List.dropWhile_sublist isTagChar (l := body)).length_le
        rw [hd, List.length_cons] at h1
        rw [← h.2]
        omega
      · simp at h
  · simp at h

set_option linter.unusedVariables false in
/-- Cut a text into segments; a fault keeps the text from the fault on. -/
def scanSegments : List Char → Except Fault (List Segment)
  | [] => .ok []
  | c :: body =>
    if c = '{' then
      match hc : candidate body with
      | .literal => (scanSegments body).map (Segment.consChar c)
      | .unterminated => .error ⟨.unterminated, c :: body⟩
      | .closed inner after =>
        match readPath inner with
        | .error f => .error (f.before ('}' :: after))
        | .ok path => (scanSegments after).map (Segment.tag path ('{' :: inner ++ ['}']) :: ·)
    else (scanSegments body).map (Segment.consChar c)
termination_by cs => cs.length
decreasing_by
  · simp
  · have := after_length_le_of_candidate hc
    simp only [List.length_cons]
    omega
  · simp

/-- Cut a template into literal text and tags. -/
def scan (text : List Char) : Except TagError (List Segment) :=
  match scanSegments text with
  | .error f => .error (f.at text)
  | .ok segments => .ok segments

end TagTemplates
