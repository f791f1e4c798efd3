import TagTemplates.Html.Token
import TagTemplates.Html.Tree

/-!
# Building document trees

A document is parsed as the content of a body.  The open elements form a stack; a token is treated
by the rules of the mode that the builder is in, which is mostly the kind of table part around the
place.  Rows outside of a table are no elements, rows and cells that stay open are closed when the
next one begins, and what does not belong into a table but stands there is moved in front of it.

An open element holds its finished children.  An element that is moved in front of a table is marked
as displaced, and goes there when it is closed.

Formatting elements are treated like other inline elements: which ones are open is visible neither
in the text of a cell nor in the rows of a table.
-/

namespace TagTemplates.Html

/-- The rules that apply to the next token. -/
inductive Mode where
  | body
  | table
  | caption
  | columnGroup
  | tableBody
  | row
  | cell
  | select
  | selectInTable
  | template
  deriving DecidableEq, Repr

/-- An element that is not closed yet. -/
structure OpenElement where
  name : String
  /-- The finished children, the last one first. -/
  children : List Tree
  /-- Whether the element goes in front of the table around it. -/
  displaced : Bool

/-- A document that is being parsed. -/
structure Builder where
  /-- The open elements, the innermost one first. -/
  stack : List OpenElement
  mode : Mode
  /-- The modes of the open templates, the innermost one first. -/
  templateModes : List Mode
  /-- Whether a form is open. -/
  hasForm : Bool
  /-- How the text of the innermost element is to be read, when no tags are recognised in it. -/
  raw : Option RawKind
  /-- Whether a line feed that comes next is left out. -/
  skipsLineFeed : Bool

namespace Builder

/-- The name of the element at the bottom of the stack. -/
def rootName : String := "html"

/-- A document of which nothing is read yet. -/
def start : Builder := ⟨[⟨rootName, [], false⟩], .body, [], false, none, false⟩

/-! ## Sets of names -/

/-- The parts of a table in which nothing but other parts may stand. -/
def tableParts : List String := ["table", "tbody", "tfoot", "thead", "tr"]

def rowGroups : List String := ["tbody", "tfoot", "thead"]

def cells : List String := ["td", "th"]

/-- Elements beyond which an element is out of scope. -/
def scopeBounds : List String :=
  ["applet", "caption", "html", "table", "td", "th", "marquee", "object", "template"]

def tableBounds : List String := ["html", "table", "template"]

def voidElements : List String :=
  ["area", "br", "embed", "img", "keygen", "wbr", "input", "param", "source", "track", "hr",
    "image", "base", "basefont", "bgsound", "link", "meta"]

def blockElements : List String :=
  ["address", "applet", "article", "aside", "blockquote", "button", "center", "dd", "details",
    "dialog", "dir", "div", "dl", "dt", "fieldset", "figcaption", "figure", "footer", "form",
    "header", "hgroup", "li", "listing", "main", "marquee", "menu", "nav", "object", "ol", "p",
    "pre", "search", "section", "summary", "ul"]

def headings : List String := ["h1", "h2", "h3", "h4", "h5", "h6"]

/-- Elements that an unexpected closing tag does not reach beyond. -/
def specialElements : List String :=
  ["address", "applet", "area", "article", "aside", "base", "basefont", "bgsound", "blockquote",
    "body", "br", "button", "caption", "center", "col", "colgroup", "dd", "details", "dir", "div",
    "dl", "dt", "embed", "fieldset", "figcaption", "figure", "footer", "form", "frame", "frameset",
    "h1", "h2", "h3", "h4", "h5", "h6", "head", "header", "hgroup", "hr", "html", "iframe", "img",
    "input", "keygen", "li", "link", "listing", "main", "marquee", "menu", "meta", "nav", "noembed",
    "noframes", "noscript", "object", "ol", "p", "param", "plaintext", "pre", "script", "search",
    "section", "select", "source", "style", "summary", "table", "tbody", "td", "template",
    "textarea", "tfoot", "th", "thead", "title", "tr", "track", "ul", "wbr", "xmp"]

/-- Opening tags without a meaning in a body. -/
def ignoredInBody : List String :=
  ["html", "body", "frameset", "head", "caption", "col", "colgroup", "frame", "tbody", "td",
    "tfoot", "th", "thead", "tr"]

/-- Opening tags that are treated alike wherever they stand. -/
def headElements : List String :=
  ["base", "basefont", "bgsound", "link", "meta", "noframes", "script", "style", "template",
    "title"]

/-- How the text of an element is read, when no tags are recognised in it. -/
def rawKind? : String → Option RawKind
  | "title" => some .references
  | "textarea" => some .references
  | "style" => some .verbatim
  | "xmp" => some .verbatim
  | "iframe" => some .verbatim
  | "noembed" => some .verbatim
  | "noframes" => some .verbatim
  | "noscript" => some .verbatim
  | "script" => some .script
  | "plaintext" => some .endless
  | _ => none

/-! ## The stack -/

/-- The name of the innermost open element. -/
def current (b : Builder) : String := (b.stack.head?.map (·.name)).getD rootName

/-- Whether an element of a name is open. -/
def isOpen (b : Builder) (name : String) : Bool := b.stack.any (·.name == name)

/-- Whether one of some names is open and no bound stands above it. -/
def inScope (bounds names : List String) : List OpenElement → Bool
  | [] => false
  | e :: rest =>
    if names.contains e.name then true
    else if bounds.contains e.name then false
    else inScope bounds names rest

/-- Whether one of some names is in scope. -/
def sees (b : Builder) (names : List String) : Bool := inScope scopeBounds names b.stack

/-- Whether one of some names is in scope within the innermost table. -/
def seesInTable (b : Builder) (names : List String) : Bool := inScope tableBounds names b.stack

/-- Whether a `select` is in scope: nothing but options may stand above it. -/
def seesSelect (b : Builder) : Bool :=
  (b.stack.dropWhile fun e => e.name == "option" || e.name == "optgroup").head?.any
    (·.name == "select")

/-- Add a finished node to the innermost element. -/
def addChild (node : Tree) : List OpenElement → List OpenElement
  | [] => []
  | e :: rest => { e with children := node :: e.children } :: rest

/-- Put a finished node in front of the innermost table: into the element below it.  A template that
is opened later takes it instead, and without a table it goes to the bottom. -/
def addDisplaced (node : Tree) : List OpenElement → List OpenElement
  | [] => []
  | [e] => addChild node [e]
  | e :: rest =>
    if e.name == "template" then addChild node (e :: rest)
    else if e.name == "table" then e :: addChild node rest
    else e :: addDisplaced node rest

/-- Close the innermost element; the one at the bottom stays. -/
def popStack : List OpenElement → List OpenElement
  | [] => []
  | [e] => [e]
  | e :: rest =>
    let node := Tree.element e.name e.children.reverse
    if e.displaced then addDisplaced node rest else addChild node rest

/-- Closing an element that is not the last leaves one fewer. -/
theorem length_popStack_lt {a b : OpenElement} {rest : List OpenElement} :
    (popStack (a :: b :: rest)).length < (a :: b :: rest).length := by
  have child (node : Tree) (s : List OpenElement) : (addChild node s).length = s.length := by
    cases s <;> simp [addChild]
  have displaced (node : Tree) (s : List OpenElement) :
      (addDisplaced node s).length = s.length := by
    fun_induction addDisplaced node s <;> simp_all
  simp only [popStack]
  split <;> simp [child, displaced]

def pop (b : Builder) : Builder := { b with stack := popStack b.stack }

/-- Close elements until the innermost one satisfies a condition. -/
def popTo (stop : OpenElement → Bool) (stack : List OpenElement) : List OpenElement :=
  match stack with
  | [] => []
  | [e] => [e]
  | a :: c :: rest =>
    if stop a then a :: c :: rest else popTo stop (popStack (a :: c :: rest))
termination_by stack.length
decreasing_by exact length_popStack_lt

/-- Close elements until the innermost one has one of some names. -/
def clearTo (b : Builder) (names : List String) : Builder :=
  { b with stack := popTo (fun e => names.contains e.name) b.stack }

/-- Close elements up to one of some names, and that one too. -/
def popThrough (b : Builder) (names : List String) : Builder := (b.clearTo names).pop

def clearToTable (b : Builder) : Builder := b.clearTo ["table", "template", "html"]

def clearToBody (b : Builder) : Builder := b.clearTo (rowGroups ++ ["template", "html"])

def clearToRow (b : Builder) : Builder := b.clearTo ["tr", "template", "html"]

/-- Change the mode. -/
def inMode (b : Builder) (mode : Mode) : Builder := { b with mode := mode }

/-! ## Insertion -/

/-- Whether a node that does not belong into a table has to go in front of one. -/
def mustDisplace (b : Builder) (misplaced : Bool) : Bool :=
  misplaced && tableParts.contains b.current

/-- Add a finished node. -/
def insertNode (b : Builder) (misplaced : Bool) (node : Tree) : Builder :=
  { b with stack :=
      if b.mustDisplace misplaced then addDisplaced node b.stack else addChild node b.stack }

/-- Open an element. -/
def insert (b : Builder) (misplaced : Bool) (name : String) : Builder :=
  { b with stack := ⟨name, [], b.mustDisplace misplaced⟩ :: b.stack }

/-- Add an element that is empty. -/
def insertVoid (b : Builder) (misplaced : Bool) (name : String) : Builder :=
  b.insertNode misplaced (.element name [])

/-- Add text; nothing is added for no text. -/
def insertText (b : Builder) (misplaced : Bool) (chars : List Char) : Builder :=
  let shown := chars.filter (· != '\x00')
  if shown.isEmpty then b else b.insertNode misplaced (.text shown)

/-- The mode that the open elements put the builder in. -/
def modeOf (templateModes : List Mode) : List OpenElement → Mode
  | [] => .body
  | [_] => .body
  | e :: rest =>
    match e.name with
    | "select" => if insideTable rest then .selectInTable else .select
    | "td" => .cell
    | "th" => .cell
    | "tr" => .row
    | "tbody" => .tableBody
    | "tfoot" => .tableBody
    | "thead" => .tableBody
    | "caption" => .caption
    | "colgroup" => .columnGroup
    | "table" => .table
    | "template" => (templateModes.head?).getD .body
    | _ => modeOf templateModes rest
where
  insideTable : List OpenElement → Bool
    | [] => false
    | e :: rest =>
      if e.name == "template" then false else if e.name == "table" then true else insideTable rest

def resetMode (b : Builder) : Builder := b.inMode (modeOf b.templateModes b.stack)

/-- Open an element whose text is read without recognising tags. -/
def insertRaw (b : Builder) (misplaced : Bool) (name : String) (kind : RawKind) : Builder :=
  { b.insert misplaced name with raw := some kind }

/-! ## Rules that hold in several modes -/

/-- An opening tag of an element that is treated alike everywhere. -/
def headStart (b : Builder) (misplaced : Bool) (name : String) : Builder :=
  match rawKind? name with
  | some kind => b.insertRaw misplaced name kind
  | none =>
    if name == "template" then
      { (b.insert misplaced name).inMode .template with
        templateModes := .template :: b.templateModes }
    else b.insertVoid misplaced name

/-- The closing tag of a template. -/
def closeTemplate (b : Builder) : Builder :=
  if b.isOpen "template" then
    let closed := b.popThrough ["template"]
    { closed with templateModes := closed.templateModes.drop 1 }.resetMode
  else b

/-- A closing tag without rules of its own: it closes an element that it can reach. -/
def closeAny (b : Builder) (name : String) : Builder :=
  let reaches := inScope (specialElements.filter (· != name)) [name] b.stack
  if reaches then b.popThrough [name] else b

/-- The value of an attribute. -/
def attributeValue (attributes : List (String × String)) (name : String) : String :=
  ((attributes.find? (·.1 == name)).map (·.2)).getD ""

/-! ## The modes -/

/-- An opening tag in a body. -/
def bodyStart (b : Builder) (misplaced : Bool) (name : String) (selfClosing : Bool) : Builder :=
  if ignoredInBody.contains name then b
  else if headElements.contains name then b.headStart misplaced name
  else if name == "textarea" then
    { b.insertRaw misplaced name .references with skipsLineFeed := true }
  else if voidElements.contains name then b.insertVoid misplaced name
  else if name == "table" then (b.insert misplaced name).inMode .table
  else if name == "select" then
    let inTable := [Mode.table, .caption, .tableBody, .row, .cell].contains b.mode
    (b.insert misplaced name).inMode (if inTable then .selectInTable else .select)
  else if name == "option" || name == "optgroup" then
    (if b.current == "option" then b.pop else b).insert misplaced name
  else if name == "form" then
    if b.hasForm && !b.isOpen "template" then b
    else { b.insert misplaced name with hasForm := b.hasForm || !b.isOpen "template" }
  else if name == "pre" || name == "listing" then
    { b.insert misplaced name with skipsLineFeed := true }
  else if name == "svg" || name == "math" then
    if selfClosing then b.insertVoid misplaced name else b.insert misplaced name
  else
    match rawKind? name with
    | some kind => b.insertRaw misplaced name kind
    | none => b.insert misplaced name

/-- A closing tag in a body. -/
def bodyStop (b : Builder) (name : String) : Builder :=
  if name == "body" || name == "html" then b
  else if name == "template" then b.closeTemplate
  else if headings.contains name then
    if b.sees headings then b.popThrough headings else b
  else if blockElements.contains name then
    let closed := if b.sees [name] then b.popThrough [name] else b
    if name == "form" && !b.isOpen "template" then { closed with hasForm := false } else closed
  else b.closeAny name

/-- A token in a body. -/
def inBody (b : Builder) (misplaced : Bool) : Token → Builder
  | .text chars => b.insertText misplaced chars
  | .comment => b.insertNode false .comment
  | .start name _ selfClosing => b.bodyStart misplaced name selfClosing
  | .stop name => b.bodyStop name

/-- A token in a `select`: what is not allowed there is left out. -/
def inSelect (b : Builder) : Token → Builder
  | .text chars => b.insertText false chars
  | .comment => b.insertNode false .comment
  | .start name _ _ =>
    let withoutOption := if b.current == "option" then b.pop else b
    let withoutGroup :=
      if withoutOption.current == "optgroup" then withoutOption.pop else withoutOption
    match name with
    | "option" => withoutOption.insert false name
    | "optgroup" => withoutGroup.insert false name
    | "hr" => withoutGroup.insertVoid false name
    | "select" => if b.seesSelect then (b.popThrough ["select"]).resetMode else b
    | "script" => b.headStart false name
    | "template" => b.headStart false name
    | _ => b
  | .stop name =>
    match name with
    | "option" => if b.current == "option" then b.pop else b
    | "optgroup" =>
      let second := (b.stack.drop 1).head?.any (·.name == "optgroup")
      let closed := if b.current == "option" && second then b.pop else b
      if closed.current == "optgroup" then closed.pop else closed
    | "select" => if b.seesSelect then (b.popThrough ["select"]).resetMode else b
    | "template" => b.closeTemplate
    | _ => b

/-- The opening tags that close a cell, a caption or a row. -/
def tableStarts : List String :=
  ["caption", "col", "colgroup", "tbody", "td", "tfoot", "th", "thead", "tr"]

/-- Treat a token.  The first argument bounds how often a token is treated again by the rules of
another mode. -/
def treat : Nat → Token → Builder → Builder
  | 0, _, b => b
  | fuel + 1, token, b =>
    let again (b : Builder) : Builder := treat fuel token b
    let asTable (b : Builder) : Builder := inTable again token b
    match b.mode with
    | .body => b.inBody false token
    | .table => asTable b
    | .caption =>
      let close (b : Builder) : Builder := (b.popThrough ["caption"]).inMode .table
      let closes := b.seesInTable ["caption"]
      match token with
      | .start name _ _ =>
        if tableStarts.contains name then if closes then again (close b) else b
        else b.inBody false token
      | .stop name =>
        if name == "caption" then if closes then close b else b
        else if name == "table" then if closes then again (close b) else b
        else if ["body", "col", "colgroup", "html", "tbody", "td", "tfoot", "th", "thead",
          "tr"].contains name then b
        else b.inBody false token
      | _ => b.inBody false token
    | .columnGroup =>
      let leave (b : Builder) : Builder :=
        if b.current == "colgroup" then again (b.pop.inMode .table) else b
      match token with
      | .text chars =>
        let spaces := chars.takeWhile isTagSpace
        let rest := chars.dropWhile isTagSpace
        let b := b.insertText false spaces
        if rest.isEmpty then b
        else if b.current == "colgroup" then treat fuel (.text rest) (b.pop.inMode .table)
        else b
      | .comment => b.insertNode false .comment
      | .start name _ _ =>
        if name == "col" then b.insertVoid false name
        else if name == "template" then b.headStart false name
        else if name == "html" then b
        else leave b
      | .stop name =>
        if name == "colgroup" then if b.current == "colgroup" then b.pop.inMode .table else b
        else if name == "col" then b
        else if name == "template" then b.closeTemplate
        else leave b
    | .tableBody =>
      let leave (b : Builder) : Builder :=
        if b.seesInTable rowGroups then again (b.clearToBody.pop.inMode .table) else b
      match token with
      | .start name _ _ =>
        if name == "tr" then (b.clearToBody.insert false "tr").inMode .row
        else if cells.contains name then again ((b.clearToBody.insert false "tr").inMode .row)
        else if tableStarts.contains name then leave b
        else asTable b
      | .stop name =>
        if rowGroups.contains name then
          if b.seesInTable [name] then b.clearToBody.pop.inMode .table else b
        else if name == "table" then leave b
        else if ["body", "caption", "col", "colgroup", "html", "td", "th", "tr"].contains name then
          b
        else asTable b
      | _ => asTable b
    | .row =>
      let close (b : Builder) : Builder := b.clearToRow.pop.inMode .tableBody
      let closes := b.seesInTable ["tr"]
      match token with
      | .start name _ _ =>
        if cells.contains name then (b.clearToRow.insert false name).inMode .cell
        else if tableStarts.contains name then if closes then again (close b) else b
        else asTable b
      | .stop name =>
        if name == "tr" then if closes then close b else b
        else if name == "table" then if closes then again (close b) else b
        else if rowGroups.contains name then
          if b.seesInTable [name] && closes then again (close b) else b
        else if ["body", "caption", "col", "colgroup", "html", "td", "th"].contains name then b
        else asTable b
      | _ => asTable b
    | .cell =>
      let close (b : Builder) : Builder := (b.popThrough cells).inMode .row
      match token with
      | .start name _ _ =>
        if tableStarts.contains name then if b.seesInTable cells then again (close b) else b
        else b.inBody false token
      | .stop name =>
        if cells.contains name then
          if b.seesInTable [name] then (b.popThrough [name]).inMode .row else b
        else if tableParts.contains name then
          if b.seesInTable [name] then again (close b) else b
        else if ["body", "caption", "col", "colgroup", "html"].contains name then b
        else b.inBody false token
      | _ => b.inBody false token
    | .select =>
      match token with
      | .start name _ _ =>
        if ["input", "keygen", "textarea"].contains name then
          if b.seesSelect then again (b.popThrough ["select"]).resetMode else b
        else b.inSelect token
      | _ => b.inSelect token
    | .selectInTable =>
      let outer := "caption" :: "td" :: "th" :: tableParts
      match token with
      | .start name _ _ =>
        if outer.contains name then again (b.popThrough ["select"]).resetMode
        else if ["input", "keygen", "textarea"].contains name then
          if b.seesSelect then again (b.popThrough ["select"]).resetMode else b
        else b.inSelect token
      | .stop name =>
        if outer.contains name then
          if b.seesInTable [name] then again (b.popThrough ["select"]).resetMode else b
        else b.inSelect token
      | _ => b.inSelect token
    | .template =>
      let switch (mode : Mode) : Builder :=
        again { b.inMode mode with templateModes := mode :: b.templateModes.drop 1 }
      match token with
      | .start name _ _ =>
        if headElements.contains name then b.headStart false name
        else if name == "col" then switch .columnGroup
        else if name == "tr" then switch .tableBody
        else if cells.contains name then switch .row
        else if tableStarts.contains name then switch .table
        else switch .body
      | .stop name => if name == "template" then b.closeTemplate else b
      | _ => b.inBody false token
where
  /-- A token between the parts of a table. -/
  inTable (again : Builder → Builder) (token : Token) (b : Builder) : Builder :=
    match token with
    | .text chars =>
      if tableParts.contains b.current && chars.all isTagSpace then b.insertText false chars
      else b.inBody true token
    | .comment => b.insertNode false .comment
    | .start name attributes _ =>
      if name == "caption" then (b.clearToTable.insert false name).inMode .caption
      else if name == "colgroup" then (b.clearToTable.insert false name).inMode .columnGroup
      else if name == "col" then
        again ((b.clearToTable.insert false "colgroup").inMode .columnGroup)
      else if rowGroups.contains name then (b.clearToTable.insert false name).inMode .tableBody
      else if name == "tr" || cells.contains name then
        again ((b.clearToTable.insert false "tbody").inMode .tableBody)
      else if name == "table" then
        if b.seesInTable ["table"] then again (b.popThrough ["table"]).resetMode else b
      else if ["style", "script", "template"].contains name then b.headStart false name
      else if name == "input" && Text.fold (attributeValue attributes "type") == "hidden" then
        b.insertVoid false name
      else if name == "form" then
        if b.hasForm || b.isOpen "template" then b
        else { b.insertVoid false name with hasForm := true }
      else b.inBody true token
    | .stop name =>
      if name == "table" then
        if b.seesInTable ["table"] then (b.popThrough ["table"]).resetMode else b
      else if name == "template" then b.closeTemplate
      else if ["body", "caption", "col", "colgroup", "html", "tbody", "td", "tfoot", "th", "thead",
        "tr"].contains name then b
      else b.inBody true token

/-- Treat a token by the rules of the modes it leads through. -/
def process (b : Builder) (token : Token) : Builder :=
  treat (2 * b.stack.length + b.templateModes.length + 8) token b

/-! ## Documents -/

/-- Read a document to its end, with a bound on the number of steps. -/
def run : Nat → Builder → List Char → Builder
  | 0, b, _ => b
  | fuel + 1, b, cs =>
    if b.skipsLineFeed then run fuel { b with skipsLineFeed := false } (dropLineFeed cs)
    else
      match b.raw with
      | some kind =>
        let (text, rest) := rawText kind b.current cs
        run fuel { (b.insertText false text).pop with raw := none } rest
      | none =>
        if cs.isEmpty then b
        else
          match readToken cs with
          | (some token, rest) => run fuel (b.process token) rest
          | (none, rest) => run fuel b rest

/-- Close all elements; what remains are the nodes of the document. -/
def finish (b : Builder) : List Tree :=
  match popTo (fun _ => false) b.stack with
  | [] => []
  | e :: _ => e.children.reverse

end Builder

/-- The nodes of a document. -/
def parse (cs : List Char) : List Tree :=
  let text := normalizeNewlines cs
  (Builder.run (4 * text.length + 4) .start text).finish

end TagTemplates.Html
