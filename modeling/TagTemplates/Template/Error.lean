import TagTemplates.Tag.Fault

/-!
# What can go wrong with a template

Three groups of causes: faults of the tags, texts that cannot be written as a literal or used as
sub-templates, and refusals of the template engine, whose wording is not kept.

The last group of `Abort` are inputs that no step of the pipeline can treat: the run ends there
without an answer.
-/

namespace TagTemplates

/-- Why a run ends without any answer. -/
inductive Abort where
  /-- Inside a raw block, the two markers of a tag share their percent sign. -/
  | overlappingMarkers
  /-- A table row begins, in the text, before the end of the row that precedes it in the table. -/
  | crossedRows
  deriving DecidableEq, Repr

/-- Errors of expanding and rendering a template. -/
inductive TemplateError where
  | tag (error : TagError)
  /-- A fallback that holds both kinds of quotes. -/
  | unquotable (text : String)
  /-- The engine cannot read the template. -/
  | parse
  /-- The engine cannot evaluate the template. -/
  | render
  /-- Sub-templates that are no flat mapping of names to text. -/
  | subTemplates (reason : String)
  | abort (cause : Abort)
  deriving DecidableEq, Repr

/-- The wording of an error.  What the engine says about a template is not part of it. -/
def TemplateError.message : TemplateError → String
  | tag e => e.message
  | unquotable text => "fallback contains both quote characters: " ++ text
  | parse => "Template parsing failed"
  | render => "Template rendering failed"
  | subTemplates reason => "invalid sub-templates: " ++ reason
  | abort _ => "aborted"

end TagTemplates
