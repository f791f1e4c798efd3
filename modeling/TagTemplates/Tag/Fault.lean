import TagTemplates.Text.Basic

/-!
# Faults of tag text

What can be wrong with the text of a tag.  A reader stops at a fault and keeps the text from there
on (`Fault`); the offset that is reported is the size of the text before it (`Fault.at`).
-/

namespace TagTemplates

/-- What is wrong with a tag. -/
inductive TagFault where
  | emptyName
  | missingIndex
  | invalidIndex (text : String)
  | nonPositiveIndex
  | unterminated
  | unexpected (c : Char)
  | missingBraces
  deriving DecidableEq, Repr

/-- The wording of a fault. -/
def TagFault.message : TagFault → String
  | emptyName => "empty name"
  | missingIndex => "missing index after ':'"
  | invalidIndex text => "index '" ++ text ++ "' is not a number"
  | nonPositiveIndex => "index must be 1 or greater"
  | unterminated => "unterminated tag"
  | unexpected c => "unexpected character '" ++ String.singleton c ++ "'"
  | missingBraces => "tag must be wrapped in '\x7b' and '\x7d'"

/-- A fault and its offset, in bytes, in the text that was read. -/
structure TagError where
  offset : Nat
  kind : TagFault
  deriving DecidableEq, Repr

/-- The wording of a fault together with its place. -/
def TagError.message (e : TagError) : String :=
  "invalid tag at offset " ++ String.ofList (Text.natDigits e.offset) ++ ": " ++ e.kind.message

/-- A fault and the text from the fault on. -/
structure Fault where
  kind : TagFault
  rest : List Char
  deriving DecidableEq, Repr

/-- Place a fault in the text that was being read. -/
def Fault.at (f : Fault) (text : List Char) : TagError :=
  ⟨Text.utf8Size text - Text.utf8Size f.rest, f.kind⟩

/-- The same fault, met in a longer text that goes on with `more`. -/
def Fault.before (f : Fault) (more : List Char) : Fault := ⟨f.kind, f.rest ++ more⟩

end TagTemplates
