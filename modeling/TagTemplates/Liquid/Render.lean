import TagTemplates.Liquid.Template
import TagTemplates.Node.Basic
import TagTemplates.Value.Compare

/-!
# Rendering templates

A template is rendered against a tree of nodes.  Three things give a name its value, the nearest
first: the loops around the place, the assignments made so far, and the data.  Looking a name up
in the data is lenient; whatever comes from there, from a loop or from an assignment is a plain
value, in which a part that does not exist is an error.

Rendering either fails, which is `none`, or ends in a `Progress`: what was printed, the assignments,
whether a loop is being left, and what the tags of the library keep.
-/

namespace TagTemplates.Liquid

/-- What the names of a place mean. -/
structure Scope where
  /-- The data. -/
  data : Node
  /-- The name of the display field. -/
  displayKey : String
  /-- The variables of the loops around the place, the innermost loop first. -/
  loops : List (List (String × Value)) := []

/-- The value that a loop or an assignment gives to a name. -/
def boundValue? (scope : Scope) (assigned : List (String × Value)) (name : String) :
    Option Value :=
  (scope.loops.findSome? (Value.valueAt? name)) <|> Value.valueAt? name assigned

/-! ## Expressions -/

mutual

/-- The value of an expression. -/
def Expression.evaluate (scope : Scope) (assigned : List (String × Value)) :
    Expression → Option Value
  | .literal value => some value
  | .lookup root indices =>
    match evaluateIndices scope assigned indices with
    | some path =>
      match boundValue? scope assigned root with
      | some value => value.walk? path
      | none => (scope.data.walk? (.string root :: path)).map Node.toValue
    | none => none

/-- The values of indices, each of which has to be a scalar. -/
def evaluateIndices (scope : Scope) (assigned : List (String × Value)) :
    List Expression → Option (List Scalar)
  | [] => some []
  | e :: es =>
    match (e.evaluate scope assigned).bind Value.scalar?, evaluateIndices scope assigned es with
    | some index, some path => some (index :: path)
    | _, _ => none

end

/-- The value of an expression after its filters. -/
def Chain.evaluate (scope : Scope) (assigned : List (String × Value)) (chain : Chain) :
    Option Value := do
  let value ← chain.entry.evaluate scope assigned
  chain.filters.foldlM
    (fun v filter => do
      (← filter.evaluate (·.evaluate scope assigned)).apply scope.displayKey v)
    value

/-- Whether a comparison holds; `none` when the left value can contain nothing. -/
def Comparison.test (c : Comparison) (a b : Value) : Option Bool :=
  match c with
  | equal => some (Value.equal a b)
  | unequal => some (!Value.equal a b)
  | less => some (Value.compare? a b == some .lt)
  | greater => some (Value.compare? a b == some .gt)
  | atMost => some (Value.compare? a b == some .lt || Value.compare? a b == some .eq)
  | atLeast => some (Value.compare? a b == some .gt || Value.compare? a b == some .eq)
  | contains => Value.contains? a b

/-- Whether a condition holds.  A value that cannot be evaluated is not there. -/
def Condition.test (scope : Scope) (assigned : List (String × Value)) : Condition → Option Bool
  | holds e => some (((e.evaluate scope assigned).getD .nil).has .truthy)
  | compare left comparison right => do
    comparison.test (← left.evaluate scope assigned) (← right.evaluate scope assigned)
  | both left right => do
    if ← left.test scope assigned then right.test scope assigned else return false
  | either left right => do
    if ← left.test scope assigned then return true else right.test scope assigned

/-! ## Loops -/

/-- The values that a loop over a value goes over; `none` for a scalar. -/
def loopValues : Value → Option (List Value)
  | .list items => some items
  | .object entries => some (entries.map fun e => .list [.ofText e.1, e.2])
  | .scalar _ => none
  | _ => some []

/-- The value of an expression as a whole number. -/
def wholeValue (scope : Scope) (assigned : List (String × Value)) (e : Expression) : Option Int :=
  ((e.evaluate scope assigned).bind Value.scalar?).bind Scalar.whole?

/-- The whole numbers from a first to a last one. -/
def wholeRange (first last : Int) : List Value :=
  (List.range (last - first + 1).toNat).map fun (i : Nat) =>
    .scalar (.whole (first + (i : Int)))

/-- The values of a loop, before its settings. -/
def LoopSource.values? (scope : Scope) (assigned : List (String × Value)) :
    LoopSource → Option (List Value)
  | values list => (list.evaluate scope assigned).bind loopValues
  | range first last => do
    return wholeRange (← wholeValue scope assigned first) (← wholeValue scope assigned last)

/-- A setting of a loop: a number of items, of which a negative one counts as too many. -/
def settingValue (scope : Scope) (assigned : List (String × Value)) (count : Nat) :
    Option Expression → Option (Option Nat)
  | none => some none
  | some e =>
    (wholeValue scope assigned e).map fun i => some (if i < 0 then count else min i.toNat count)

/-- The values of a loop: some are skipped, no more than a limit are taken, and then they may be
reversed. -/
def LoopHead.values? (scope : Scope) (assigned : List (String × Value)) (head : LoopHead) :
    Option (List Value) := do
  let all ← head.source.values? scope assigned
  let limit ← settingValue scope assigned all.length head.limit
  let offset ← settingValue scope assigned all.length head.offset
  let taken := (all.drop (offset.getD 0)).take (limit.getD all.length)
  return if head.reversed then taken.reverse else taken

/-- What a loop body knows about its place in the loop. -/
def turnEntries (outer : Value) (index count : Nat) : List (String × Value) :=
  let whole (n : Nat) : Value := .scalar (.whole n)
  [("length", whole count), ("parentloop", outer), ("index0", whole index),
    ("index", whole (index + 1)), ("rindex0", whole (count - index - 1)),
    ("rindex", whole (count - index)), ("first", .scalar (.bool (index == 0))),
    ("last", .scalar (.bool (index + 1 == count)))]

/-- The scope of one turn of a loop. -/
def Scope.turn (scope : Scope) (outer : Value) (name : String) (index count : Nat) (value : Value) :
    Scope :=
  { scope with
    loops := [(name, value), ("forloop", .object (turnEntries outer index count))] :: scope.loops }

/-- Run the turns of a loop, numbered from the given one, until one of them leaves the loop. -/
def runTurns (turn : Nat → Value → Progress → Option Progress) :
    Nat → List Value → Progress → Option Progress
  | _, [], p => some p
  | index, v :: vs, p =>
    match turn index v p with
    | none => none
    | some after =>
      let cleared := { after with interrupted := none }
      if after.interrupted == some .leave then some cleared
      else runTurns turn (index + 1) vs cleared

/-! ## Parts -/

mutual

/-- Render a part. -/
def Part.render (scope : Scope) (p : Progress) : Part → Option Progress
  | .text text => some (p.print (String.ofList text))
  | .output chain => (chain.evaluate scope p.assigned).map fun v => p.print v.text
  | .assign name chain => (chain.evaluate scope p.assigned).map fun v => p.assign name v
  | .capture name body =>
    (renderParts scope { p with output := "" } body).map fun inner =>
      { inner with output := p.output }.assign name (.ofText inner.output)
  | .choice wanted condition body otherwise =>
    match condition.test scope p.assigned with
    | none => none
    | some answer =>
      if answer == wanted then renderParts scope p body else renderParts scope p otherwise
  | .select target cases otherwise =>
    match target.evaluate scope p.assigned with
    | none => none
    | some value =>
      match renderCases scope p value cases with
      | some (some done) => some done
      | some none => renderParts scope p otherwise
      | none => none
  | .loop head body otherwise =>
    match head.values? scope p.assigned with
    | none => none
    | some [] => renderParts scope p otherwise
    | some values =>
      let outer := (boundValue? scope p.assigned "forloop").getD .nil
      runTurns
        (fun index v q =>
          renderParts (scope.turn outer head.name index values.length v) q body)
        0 values p
  | .interrupt kind => some { p with interrupted := some kind }
  | .foreign tag body =>
    tag.act (tag.arguments.map (·.evaluate scope p.assigned))
      (fun names q => renderParts { scope with loops := names :: scope.loops } q body) p

/-- Render parts one after another; an interrupt drops what follows it. -/
def renderParts (scope : Scope) (p : Progress) : List Part → Option Progress
  | [] => some p
  | part :: rest =>
    match part.render scope p with
    | none => none
    | some after =>
      if after.interrupted.isSome then some after else renderParts scope after rest

/-- Render the first case that lists a value, if any. -/
def renderCases (scope : Scope) (p : Progress) (value : Value) :
    List (List Expression × List Part) → Option (Option Progress)
  | [] => some none
  | (alternatives, body) :: rest =>
    match matchesAny scope p.assigned value alternatives with
    | none => none
    | some true => (renderParts scope p body).map some
    | some false => renderCases scope p value rest
where
  matchesAny (scope : Scope) (assigned : List (String × Value)) (value : Value) :
      List Expression → Option Bool
    | [] => some false
    | e :: es =>
      match e.evaluate scope assigned with
      | none => none
      | some v => if Value.equal v value then some true else matchesAny scope assigned value es

end

/-- Render a template. -/
def Template.render (displayKey : String) (data : Node) (template : Template) : Option String :=
  (renderParts ⟨data, displayKey, []⟩ .start template).map (·.output)

end TagTemplates.Liquid
