import TagTemplates.Liquid.Render
import TagTemplates.Template.Output

/-!
# Rendering expanded templates

An expanded template is rendered against data.  Before it is read, every output is sent through the
`fallback` filter, so that records and lists print their displays.
-/

namespace TagTemplates

variable [Liquid.Library]

/-- The template that a text is. -/
def readTemplate (text : List Char) : Except TemplateError Liquid.Template := do
  let final ← (finalizeOutputs text).mapError .abort
  match Liquid.Template.read? final with
  | some template => return template
  | none => throw .parse

/-- Render a text against data, with the given name of the display field. -/
def renderTemplate (displayKey : String) (data : Node) (text : List Char) :
    Except TemplateError String := do
  let template ← readTemplate text
  match template.render displayKey data with
  | some output => return output
  | none => throw .render

/-- Render a text against data without a schema. -/
def renderWithJson (displayKey : String) (data : Json) (text : List Char) :
    Except TemplateError String :=
  renderTemplate displayKey (Node.ofJson displayKey data) text

end TagTemplates
