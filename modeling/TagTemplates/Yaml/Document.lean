import TagTemplates.Yaml.Node
import TagTemplates.Yaml.Token

/-!
# YAML documents

`Node.read?` reads a text as one document.  Collections are read from the tokens by recursion; the
bound of the recursion is a multiple of the number of tokens.

An anchor is known from where its value begins, so that a later anchor of the same name hides it,
but the value is there only at its end.
-/

namespace TagTemplates.Yaml

/-- The anchors that are known, the latest first; the value of an unfinished one is missing. -/
abbrev Anchors := List (String × Option Node)

/-- The images of the handles of tags. -/
abbrev Handles := List (String × String)

/-- What has been read, the anchors known by then, and the tokens that follow. -/
abbrev Parsed (α : Type) := α × Anchors × List Token

/-- What may stand in front of a value. -/
structure Properties where
  anchor : Option String := none
  tag : Option String := none

namespace Properties

def isEmpty (p : Properties) : Bool := p.anchor.isNone && p.tag.isNone

/-- A tag with the image of its handle in front. -/
def fullTag (handles : Handles) (handle suffix : String) : Option String :=
  if handle.isEmpty then some suffix
  else (handles.find? (·.1 == handle)).map (·.2 ++ suffix)

/-- Read an anchor and a tag, in either order. -/
def read (handles : Handles) : List Token → Option (Properties × List Token)
  | .anchor name :: .tag handle suffix :: rest => do
    return (⟨some name, some (← fullTag handles handle suffix)⟩, rest)
  | .tag handle suffix :: .anchor name :: rest => do
    return (⟨some name, some (← fullTag handles handle suffix)⟩, rest)
  | .anchor name :: rest => some (⟨some name, none⟩, rest)
  | .tag handle suffix :: rest => do
    return (⟨none, some (← fullTag handles handle suffix)⟩, rest)
  | rest => some ({}, rest)

/-- Whether a collection has a tag that the document makes up. -/
def isForeign (p : Properties) : Bool := p.tag.any (Text.startsWith · "!")

/-- The form of a scalar. -/
def form (p : Properties) (isPlain : Bool) : ScalarForm :=
  let untagged := if isPlain then ScalarForm.plain else .text
  match p.tag with
  | none => untagged
  | some "!" => untagged
  | some "tag:yaml.org,2002:null" => .null
  | some "tag:yaml.org,2002:bool" => .bool
  | some "tag:yaml.org,2002:int" => .whole
  | some "tag:yaml.org,2002:float" => .fractional
  | some _ => if p.isForeign then .foreign else .text

/-- Note where the value of an anchor begins. -/
def begin (p : Properties) (anchors : Anchors) : Anchors :=
  match p.anchor with
  | some name => (name, none) :: anchors
  | none => anchors

/-- Set the value of an anchor, given the number of the anchors that were known before it. -/
def finish (p : Properties) (known : Nat) (node : Node) (anchors : Anchors) : Anchors :=
  match p.anchor with
  | some name => anchors.modify (anchors.length - 1 - known) fun _ => (name, some node)
  | none => anchors

end Properties

/-- The value that an alias stands for. -/
def Anchors.lookup (name : String) (anchors : Anchors) : Option Node :=
  (anchors.find? (·.1 == name)).map fun entry => entry.2.getD .cycle

namespace Node

mutual

/-- Read a value.  A list that is not indented may stand only as a part of a block mapping. -/
def parse (handles : Handles) :
    Nat → Bool → Bool → Anchors → List Token → Option (Parsed Node)
  | 0, _, _, _, _ => none
  | fuel + 1, inBlock, allowsFlat, anchors, tokens =>
    match tokens with
    | .alias name :: rest => do return (← anchors.lookup name, anchors, rest)
    | _ => do
      let (properties, rest) ← Properties.read handles tokens
      let (node, later, rest) ←
        parseContent handles fuel inBlock allowsFlat properties (properties.begin anchors) rest
      return (node, properties.finish anchors.length node later, rest)

/-- Read a value behind its properties. -/
def parseContent (handles : Handles) :
    Nat → Bool → Bool → Properties → Anchors → List Token → Option (Parsed Node)
  | 0, _, _, _, _, _ => none
  | fuel + 1, inBlock, allowsFlat, properties, anchors, tokens =>
    let ofList (parsed : Parsed (List Node)) : Parsed Node :=
      (.list properties.isForeign parsed.1, parsed.2)
    let ofMap (parsed : Parsed (List (Node × Node))) : Parsed Node :=
      (.map properties.isForeign parsed.1, parsed.2)
    let missing : Option (Parsed Node) :=
      if properties.isEmpty then none
      else some (.scalar "" (properties.form true), anchors, tokens)
    match tokens with
    | .scalar text isPlain :: rest => some (.scalar text (properties.form isPlain), anchors, rest)
    | .flowSequence :: rest => (parseFlowItems handles fuel true anchors rest).map ofList
    | .flowMapping :: rest => (parseFlowEntries handles fuel true anchors rest).map ofMap
    | .blockItem :: _ =>
      if allowsFlat then (parseFlatItems handles fuel anchors tokens).map ofList else missing
    | .blockSequence :: rest =>
      if inBlock then (parseBlockItems handles fuel anchors rest).map ofList else missing
    | .blockMapping :: rest =>
      if inBlock then (parseBlockEntries handles fuel anchors rest).map ofMap else missing
    | _ => missing

/-- Read a value unless one of the given tokens, or nothing, follows. -/
def parseUnless (handles : Handles) :
    Nat → List Token → Bool → Bool → Anchors → List Token → Option (Parsed Node)
  | 0, _, _, _, _, _ => none
  | fuel + 1, stops, inBlock, allowsFlat, anchors, tokens =>
    if tokens.head?.any stops.contains then some (empty, anchors, tokens)
    else parse handles fuel inBlock allowsFlat anchors tokens

/-- The items of a block list. -/
def parseBlockItems (handles : Handles) :
    Nat → Anchors → List Token → Option (Parsed (List Node))
  | 0, _, _ => none
  | fuel + 1, anchors, tokens =>
    match tokens with
    | .blockItem :: rest => do
      let (item, anchors, rest) ←
        parseUnless handles fuel [.blockItem, .blockEnd] true false anchors rest
      let (items, anchors, rest) ← parseBlockItems handles fuel anchors rest
      return (item :: items, anchors, rest)
    | .blockEnd :: rest => some ([], anchors, rest)
    | _ => none

/-- The items of a list that is not indented. -/
def parseFlatItems (handles : Handles) :
    Nat → Anchors → List Token → Option (Parsed (List Node))
  | 0, _, _ => none
  | fuel + 1, anchors, tokens =>
    match tokens with
    | .blockItem :: rest => do
      let stops := [.blockItem, .key, .value, .blockEnd]
      let (item, anchors, rest) ← parseUnless handles fuel stops true false anchors rest
      let (items, anchors, rest) ← parseFlatItems handles fuel anchors rest
      return (item :: items, anchors, rest)
    | _ => some ([], anchors, tokens)

/-- The value of an entry. -/
def parseValue (handles : Handles) :
    Nat → List Token → Bool → Anchors → List Token → Option (Parsed Node)
  | 0, _, _, _, _ => none
  | fuel + 1, stops, inBlock, anchors, tokens =>
    match tokens with
    | .value :: rest => parseUnless handles fuel stops inBlock inBlock anchors rest
    | _ => some (empty, anchors, tokens)

/-- The entries of a block mapping. -/
def parseBlockEntries (handles : Handles) :
    Nat → Anchors → List Token → Option (Parsed (List (Node × Node)))
  | 0, _, _ => none
  | fuel + 1, anchors, tokens =>
    match tokens with
    | .key :: rest => do
      let stops := [.key, .value, .blockEnd]
      let (key, anchors, rest) ← parseUnless handles fuel stops true true anchors rest
      let (value, anchors, rest) ← parseValue handles fuel stops true anchors rest
      let (entries, anchors, rest) ← parseBlockEntries handles fuel anchors rest
      return ((key, value) :: entries, anchors, rest)
    | .blockEnd :: rest => some ([], anchors, rest)
    | _ => none

/-- The items of a flow list; all but the first stand behind a separator.  An item may be the one
entry of a map. -/
def parseFlowItems (handles : Handles) :
    Nat → Bool → Anchors → List Token → Option (Parsed (List Node))
  | 0, _, _, _ => none
  | fuel + 1, isFirst, anchors, tokens =>
    let next := if isFirst then tokens else tokens.drop 1
    if tokens.head? == some .flowSequenceEnd then some ([], anchors, tokens.drop 1)
    else if !isFirst && tokens.head? != some .flowSeparator then none
    else
      match next with
      | .flowSequenceEnd :: rest => some ([], anchors, rest)
      | .key :: rest => do
        let stops := [.flowSeparator, .flowSequenceEnd]
        let (key, anchors, rest) ←
          if rest.head?.any (.value :: stops).contains then some (empty, anchors, rest.drop 1)
          else parse handles fuel false false anchors rest
        let (value, anchors, rest) ← parseValue handles fuel stops false anchors rest
        let (items, anchors, rest) ← parseFlowItems handles fuel false anchors rest
        return (.map false [(key, value)] :: items, anchors, rest)
      | _ => do
        let (item, anchors, rest) ← parse handles fuel false false anchors next
        let (items, anchors, rest) ← parseFlowItems handles fuel false anchors rest
        return (item :: items, anchors, rest)

/-- The entries of a flow mapping; all but the first stand behind a separator. -/
def parseFlowEntries (handles : Handles) :
    Nat → Bool → Anchors → List Token → Option (Parsed (List (Node × Node)))
  | 0, _, _, _ => none
  | fuel + 1, isFirst, anchors, tokens =>
    let next := if isFirst then tokens else tokens.drop 1
    if tokens.head? == some .flowMappingEnd then some ([], anchors, tokens.drop 1)
    else if !isFirst && tokens.head? != some .flowSeparator then none
    else
      match next with
      | .flowMappingEnd :: rest => some ([], anchors, rest)
      | .key :: rest => do
        let stops := [.flowSeparator, .flowMappingEnd]
        let (key, anchors, rest) ←
          parseUnless handles fuel (.value :: stops) false false anchors rest
        let (value, anchors, rest) ← parseValue handles fuel stops false anchors rest
        let (entries, anchors, rest) ← parseFlowEntries handles fuel false anchors rest
        return ((key, value) :: entries, anchors, rest)
      | _ => do
        let (key, anchors, rest) ← parse handles fuel false false anchors next
        let (entries, anchors, rest) ← parseFlowEntries handles fuel false anchors rest
        return ((key, empty) :: entries, anchors, rest)

end

/-! ## Documents -/

/-- Read the directives in front of a document: the handles that they declare, and what follows. -/
def readDirectives (hasVersion : Bool) (handles : Handles) :
    List Token → Option (Handles × List Token)
  | .version major minor :: rest =>
    if hasVersion || major != 1 || !(minor == 1 || minor == 2) then none
    else readDirectives true handles rest
  | .shorthand name image :: rest =>
    if handles.any (·.1 == name) then none
    else readDirectives hasVersion ((name, image) :: handles) rest
  | rest => some (handles, rest)

/-- The handles that need no declaration. -/
def defaultHandles : Handles := [("!", "!"), ("!!", "tag:yaml.org,2002:")]

/-- Whether a token cannot begin the content of a document. -/
def isBetweenDocuments : Token → Bool
  | .version _ _ => true
  | .shorthand _ _ => true
  | .documentStart => true
  | .documentEnd => true
  | _ => false

/-- Read the one document of some tokens. -/
def ofTokens? (tokens : List Token) : Option Node := do
  let bound := 4 * tokens.length + 8
  let isExplicit := tokens.head?.any fun t => isBetweenDocuments t && t != .documentEnd
  let (node, _, rest) ←
    if tokens.isEmpty then some (empty, [], [])
    else if isExplicit then do
      let (handles, rest) ← readDirectives false [] tokens
      match rest with
      | .documentStart :: rest =>
        if rest.isEmpty || rest.head?.any isBetweenDocuments then some (empty, [], rest)
        else parse (handles ++ defaultHandles) bound true false [] rest
      | _ => none
    else parse defaultHandles bound true false [] tokens
  if rest.all (· == .documentEnd) then some node else none

/-- Read a text as one document. -/
def read? (text : String) : Option Node := (Token.read? text).bind ofTokens?

end Node

end TagTemplates.Yaml
