import TagTemplates.Tag.Path
import TagTemplates.Template.Error

/-!
# Fallbacks

What a tag renders as when it names nothing: one text for every tag, or a text computed from the
tag in its source form.  In the expanded template the text stands as a string literal.  These
literals have no escapes, so a text with both kinds of quotes cannot be written.
-/

namespace TagTemplates

/-- What an unresolved tag renders as. -/
inductive Fallback where
  | literal (text : String)
  /-- Computed from the tag in its source form, braces included. -/
  | computed (f : String → String)

namespace Fallback

instance : Inhabited Fallback := ⟨literal ""⟩

/-- The fallback that shows an unresolved tag as its source form. -/
def echo : Fallback := computed id

/-- The fallback text of a tag. -/
def resolve (fallback : Fallback) (path : Path) : String :=
  match fallback with
  | literal text => text
  | computed f => f path.tagString

end Fallback

/-- Write a text as a string literal, in the quotes that do not occur in it. -/
def quoteLiteral (text : String) : Except TemplateError (List Char) :=
  if ¬ '\'' ∈ text.toList then .ok ('\'' :: text.toList ++ ['\''])
  else if ¬ '"' ∈ text.toList then .ok ('"' :: text.toList ++ ['"'])
  else .error (.unquotable text)

end TagTemplates
