import TagTemplates.Text.Basic

/-!
# Tag paths

A tag names a value by a path: a root and the steps below it, each a name with an optional index.
Indices are counted from one where an author reads or writes them and from zero inside.

* `Step.source` and `Path.source` are the form an author writes, `user.dogs:1.name`.
* `Path.tag` is the source form in braces.
* `Path.expression` is the variable expression a template engine evaluates, `user.dogs[0].name`.
-/

namespace TagTemplates

/-- One step of a path. -/
structure Step where
  /-- The name, in the folded form in which it is looked up. -/
  name : String
  /-- The index, counted from zero. -/
  index : Option Nat
  deriving DecidableEq, Repr

namespace Step

/-- A step with its name folded. -/
def make (name : String) (index : Option Nat := none) : Step := ⟨Text.fold name, index⟩

/-- What an author writes for an index. -/
def indexSource : Option Nat → List Char
  | none => []
  | some i => ':' :: Text.natDigits (i + 1)

/-- What an author writes for a step. -/
def source (s : Step) : List Char := s.name.toList ++ indexSource s.index

/-- What a template engine reads for a step. -/
def expression (s : Step) : List Char :=
  s.name.toList ++
    match s.index with
    | none => []
    | some i => '[' :: Text.natDigits i ++ [']']

end Step

/-- The dotted source form of a list of steps. -/
def stepsSource (steps : List Step) : List Char := Text.joinWith ['.'] (steps.map Step.source)

/-- A path: a root step and the steps below it. -/
structure Path where
  root : Step
  rest : List Step
  deriving DecidableEq, Repr

namespace Path

/-- All steps of a path. -/
def steps (p : Path) : List Step := p.root :: p.rest

/-- The path with the given steps; no path is empty. -/
def ofSteps? : List Step → Option Path
  | [] => none
  | root :: rest => some ⟨root, rest⟩

@[simp] theorem ofSteps?_steps (p : Path) : ofSteps? p.steps = some p := rfl

/-- The number of steps. -/
def length (p : Path) : Nat := p.steps.length

/-- The path as an author writes it, without braces. -/
def source (p : Path) : List Char := stepsSource p.steps

/-- The path as an author writes it, in braces. -/
def tag (p : Path) : List Char := '{' :: p.source ++ ['}']

/-- The variable expression of a path. -/
def expression (p : Path) : List Char :=
  Text.joinWith ['.'] (p.steps.map Step.expression)

/-- The tag of a path as a string. -/
def tagString (p : Path) : String := String.ofList p.tag

end Path

end TagTemplates
