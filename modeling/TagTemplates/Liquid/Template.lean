import TagTemplates.Liquid.Element
import TagTemplates.Liquid.Filter

/-!
# Templates

A template is a list of parts: text, outputs, assignments, and the blocks that repeat, choose or
capture other parts.  `Template.ofElements?` builds it from the elements of a text.  A tag that is
none of these is asked of the library.  Tags and filters that the library does not have either, tags
with wrong words, and blocks that are not closed are refused.
-/

namespace TagTemplates.Liquid

/-- A comparison of two values. -/
inductive Comparison where
  | equal
  | unequal
  | less
  | greater
  | atMost
  | atLeast
  | contains
  deriving DecidableEq, Repr

/-- The comparison that a word names. -/
def Comparison.ofText? : String → Option Comparison
  | "==" => some equal
  | "!=" => some unequal
  | "<>" => some unequal
  | "<" => some less
  | ">" => some greater
  | "<=" => some atMost
  | ">=" => some atLeast
  | "contains" => some contains
  | _ => none

/-- A condition. -/
inductive Condition where
  /-- A value that is there and truthy. -/
  | holds (value : Expression)
  | compare (left : Expression) (comparison : Comparison) (right : Expression)
  | both (left right : Condition)
  | either (left right : Condition)

/-- What a loop goes over. -/
inductive LoopSource where
  | values (list : Expression)
  | range (first last : Expression)

/-- The head of a loop. -/
structure LoopHead where
  name : String
  source : LoopSource
  limit : Option Expression
  offset : Option Expression
  reversed : Bool

/-- A part of a template. -/
inductive Part where
  | text (text : List Char)
  | output (chain : Chain)
  | assign (name : String) (chain : Chain)
  | capture (name : String) (body : List Part)
  /-- One of two bodies, by whether the condition has the wanted answer. -/
  | choice (wanted : Bool) (condition : Condition) (body otherwise : List Part)
  /-- The body of the first case that lists a value equal to the target. -/
  | select (target : Expression) (cases : List (List Expression × List Part))
      (otherwise : List Part)
  | loop (head : LoopHead) (body otherwise : List Part)
  | interrupt (kind : Interrupt)
  /-- A tag of the library, and its body. -/
  | foreign (tag : ForeignTag) (body : List Part)

/-- A template. -/
abbrev Template := List Part

/-! ## The words of tags -/

/-- Read a value and, behind a comparison, a second one. -/
def readComparison : List Token → Option (Condition × List Token)
  | [] => none
  | word :: words => do
    let left ← word.value?
    match words with
    | symbol :: rest =>
      match Comparison.ofText? symbol.text, rest with
      | some comparison, right :: rest => return (.compare left comparison (← right.value?), rest)
      | some _, [] => none
      | none, _ => return (.holds left, words)
    | [] => return (.holds left, [])

/-- Read the comparisons that `and` joins to one. -/
def readConjuncts : Nat → Condition → List Token → Option (Condition × List Token)
  | 0, _, _ => none
  | fuel + 1, left, words =>
    match words with
    | word :: rest =>
      if word.text == "and" then do
        let (right, rest) ← readComparison rest
        readConjuncts fuel (.both left right) rest
      else some (left, words)
    | [] => some (left, [])

/-- Read the conjunctions that `or` joins to one; nothing may follow. -/
def readDisjuncts : Nat → Condition → List Token → Option Condition
  | 0, _, _ => none
  | fuel + 1, left, words =>
    match words with
    | word :: rest =>
      if word.text == "or" then do
        let (first, rest) ← readComparison rest
        let (right, rest) ← readConjuncts (rest.length + 1) first rest
        readDisjuncts fuel (.either left right) rest
      else none
    | [] => some left

/-- The condition that the words of a tag are. -/
def Condition.ofWords? (words : List Token) : Option Condition := do
  let (first, rest) ← readComparison words
  let (left, rest) ← readConjuncts (rest.length + 1) first rest
  readDisjuncts (rest.length + 1) left rest

/-- The values of a case: separated by commas or `or`. -/
def readAlternatives : List Token → Option (List Expression)
  | [] => none
  | [word] => word.value?.map ([·])
  | word :: separator :: rest =>
    if separator.text == "," || separator.text == "or" then do
      return (← word.value?) :: (← readAlternatives rest)
    else none

/-- The name and the chain of an assignment. -/
def readAssignment [Library] : List Token → Option (String × Chain)
  | [name, .symbol "=", .calls calls _] => do return (← name.name?, ← Chain.ofCalls? calls)
  | _ => none

/-- Read the settings at the end of the head of a loop; a later one replaces an earlier one. -/
def readLoopSettings (head : LoopHead) : List Token → Option LoopHead
  | [] => some head
  | word :: rest =>
    if word.text == "reversed" then readLoopSettings { head with reversed := true } rest
    else
      match rest with
      | .symbol ":" :: value :: rest =>
        match word.text, value.value? with
        | "limit", some limit => readLoopSettings { head with limit := some limit } rest
        | "offset", some offset => readLoopSettings { head with offset := some offset } rest
        | _, _ => none
      | _ => none

/-- The head of a loop. -/
def LoopHead.ofWords? : List Token → Option LoopHead
  | name :: connective :: source :: settings => do
    let name ← name.name?
    if connective.text != "in" then none
    else
      let source ←
        match source with
        | .range first last => some (.range first last)
        | other => other.value?.map .values
      readLoopSettings ⟨name, source, none, none, false⟩ settings
  | _ => none

/-! ## Blocks -/

/-- The parts up to a tag that ends them, that tag, and the elements behind it. -/
structure Block where
  parts : List Part
  stop : Option (String × List Token)
  rest : List Element

/-- Put a part in front of a block. -/
def Block.add (part : Part) (block : Block) : Block := { block with parts := part :: block.parts }

/-- The text of a raw block, and the elements behind it. -/
def rawText : List Element → Option (List Char × List Element)
  | [] => none
  | element :: rest =>
    match element with
    | .tag "endraw" _ _ => some ([], rest)
    | other => (rawText rest).map fun (text, rest) => (other.source ++ text, rest)

/-- The elements behind a comment; comments nest. -/
def afterComment : Nat → List Element → Option (List Element)
  | _, [] => none
  | depth, element :: rest =>
    match element with
    | .tag "comment" _ _ => afterComment (depth + 1) rest
    | .tag "endcomment" _ _ =>
      match depth with
      | 0 => some rest
      | depth + 1 => afterComment depth rest
    | _ => afterComment depth rest

variable [Library]

mutual

/-- Read parts up to one of the tags that end them.  The first argument bounds the number of
steps. -/
def readBlock : Nat → List String → List Element → Option Block
  | 0, _, _ => none
  | _ + 1, _, [] => some ⟨[], none, []⟩
  | fuel + 1, stops, element :: rest =>
    match element with
    | .text text => (readBlock fuel stops rest).map (·.add (.text text))
    | .output calls _ => do
      let chain ← Chain.ofCalls? calls
      (readBlock fuel stops rest).map (·.add (.output chain))
    | .stray _ => none
    | .tag name words _ =>
      if stops.contains name then some ⟨[], some (name, words), rest⟩
      else do
        let (part, rest) ← readTagPart fuel name words rest
        let block ← readBlock fuel stops rest
        return match part with
          | some part => block.add part
          | none => block

/-- Read the block that a tag begins; a comment leaves nothing. -/
def readTagPart : Nat → String → List Token → List Element →
    Option (Option Part × List Element)
  | 0, _, _, _ => none
  | fuel + 1, name, words, rest =>
    match name with
    | "assign" => do
      let (name, chain) ← readAssignment words
      return (some (.assign name chain), rest)
    | "break" => if words.isEmpty then some (some (.interrupt .leave), rest) else none
    | "continue" => if words.isEmpty then some (some (.interrupt .skip), rest) else none
    | "raw" => do
      if !words.isEmpty then none
      else
        let (text, rest) ← rawText rest
        return (some (.text text), rest)
    | "comment" => do
      if !words.isEmpty then none
      else
        let rest ← afterComment 0 rest
        return (none, rest)
    | "capture" => do
      match words with
      | [word] =>
        let name ← word.name?
        let (body, rest) ← readClosed fuel "endcapture" rest
        return (some (.capture name body), rest)
      | _ => none
    | "if" => do
      let (part, rest) ← readChoice fuel true "endif" words rest
      return (some part, rest)
    | "unless" => do
      let (part, rest) ← readChoice fuel false "endunless" words rest
      return (some part, rest)
    | "for" => do
      let head ← LoopHead.ofWords? words
      let block ← readBlock fuel ["endfor", "else"] rest
      match block.stop with
      | some ("endfor", _) => return (some (.loop head block.parts []), block.rest)
      | some (_, []) =>
        let (otherwise, rest) ← readClosed fuel "endfor" block.rest
        return (some (.loop head block.parts otherwise), rest)
      | _ => none
    | "case" => do
      match words with
      | [word] =>
        let target ← word.value?
        let ignored ← readBlock fuel ["endcase", "when", "else"] rest
        let (cases, otherwise, rest) ← readCases fuel ignored
        return (some (.select target cases otherwise), rest)
      | _ => none
    | _ => do
      let tag ← Library.tag? name words
      match tag.close with
      | some close =>
        let (body, rest) ← readClosed fuel close rest
        return (some (.foreign tag body), rest)
      | none => return (some (.foreign tag []), rest)

/-- Read a block up to its own end. -/
def readClosed : Nat → String → List Element → Option (List Part × List Element)
  | 0, _, _ => none
  | fuel + 1, close, rest => do
    let block ← readBlock fuel [close] rest
    match block.stop with
    | some _ => return (block.parts, block.rest)
    | none => none

/-- Read a choice; only the block of `if` has further conditions. -/
def readChoice : Nat → Bool → String → List Token → List Element → Option (Part × List Element)
  | 0, _, _, _, _ => none
  | fuel + 1, wanted, close, words, rest => do
    let condition ← Condition.ofWords? words
    let block ← readBlock fuel (close :: "else" :: if wanted then ["elsif"] else []) rest
    match block.stop with
    | some ("else", _) =>
      let (otherwise, rest) ← readClosed fuel close block.rest
      return (.choice wanted condition block.parts otherwise, rest)
    | some ("elsif", words) =>
      let (next, rest) ← readChoice fuel true close words block.rest
      return (.choice wanted condition block.parts [next], rest)
    | some _ => return (.choice wanted condition block.parts [], block.rest)
    | none => none

/-- Read the cases behind a block that ended where one begins. -/
def readCases : Nat → Block →
    Option (List (List Expression × List Part) × List Part × List Element)
  | 0, _ => none
  | fuel + 1, before => do
    match before.stop with
    | some ("when", words) =>
      let values ← readAlternatives words
      let block ← readBlock fuel ["endcase", "when", "else"] before.rest
      let (cases, otherwise, rest) ← readCases fuel block
      return ((values, block.parts) :: cases, otherwise, rest)
    | some ("else", []) =>
      let (otherwise, rest) ← readClosed fuel "endcase" before.rest
      return ([], otherwise, rest)
    | some ("endcase", _) => return ([], [], before.rest)
    | _ => none

end

/-- The template that a list of elements is. -/
def Template.ofElements? (elements : List Element) : Option Template := do
  let block ← readBlock (4 * elements.length + 4) [] elements
  return block.parts

/-- Read a template. -/
def Template.read? (cs : List Char) : Option Template := Template.ofElements? (elements cs)

end TagTemplates.Liquid
