import TagTemplates.Proofs.Dump.Walk
import TagTemplates.Proofs.Template.Chunks

/-!
# What an expanded tag prints

A tag that is expanded to a look-up is evaluated by the template language as a variable with
indices.  Where the strict walk through the data gets to its end, the variable has the value of the
node at its end, and the filter behind it prints this node or the fallback.

* `Node.find`: the lenient walk, in which everything below the missing node is missing.
* `Node.shown`: what a look-up prints.
* `walk?_of_follow?`: the walk by the indices of a variable.
* `print?_chunk_lookup`, `print?_chunk_unresolved`: what the chunk of a tag prints.
-/

namespace TagTemplates

open Liquid

namespace Node

/-- What one step leads to. -/
def stepTo (n : Node) (s : Step) : Node :=
  match s.index with
  | none => n.field s.name
  | some i => (n.field s.name).item i

/-- What steps lead to. -/
def find (n : Node) (steps : List Step) : Node := steps.foldl stepTo n

/-- What a look-up prints that leads to a node: the default where nothing is, and the text in the
document of everything else. -/
def shown (displayKey default : String) (n : Node) : String :=
  if n.isMissing then default else n.toValue.finalText displayKey

/-! ## Walks -/

theorem field_of_named? {name : String} : ∀ {n found : Node}, n.named? name = some found →
    n.field name = found
  | missing, _, h => Option.some_inj.mp h
  | record _ _, _, h => Option.some_inj.mp h
  | list _, _, h => absurd h (by simp [named?])
  | scalar _, _, h => absurd h (by simp [named?])

theorem item_of_itemAt? {i : Nat} : ∀ {n found : Node}, n.itemAt? i = some found →
    n.item i = found
  | missing, _, h => Option.some_inj.mp h
  | list _, _, h => Option.some_inj.mp h
  | record _ _, _, h => absurd h (by simp [itemAt?])
  | scalar _, _, h => absurd h (by simp [itemAt?])

/-- A strict step leads where the lenient one leads. -/
theorem stepTo_of_take? {n found : Node} {s : Step} (h : n.take? s = some found) :
    n.stepTo s = found := by
  rw [take?] at h
  rw [stepTo]
  cases hindex : s.index with
  | none =>
    simp only [hindex] at h
    exact field_of_named? h
  | some i =>
    simp only [hindex] at h
    obtain ⟨next, hentry, hitem⟩ := Option.bind_eq_some_iff.mp h
    show (n.field s.name).item i = found
    rw [field_of_named? hentry]
    exact item_of_itemAt? hitem

/-- A walk that takes its first step. -/
theorem exists_of_follow?_cons {n found : Node} {s : Step} {rest : List Step}
    (h : n.follow? (s :: rest) = some found) :
    ∃ next, n.take? s = some next ∧ next.follow? rest = some found := by
  rw [follow?, List.foldlM_cons] at h
  exact Option.bind_eq_some_iff.mp h

/-- **The strict walk leads where the lenient one leads.** -/
theorem find_of_follow? : ∀ {steps : List Step} {n found : Node},
    n.follow? steps = some found → n.find steps = found
  | [], _, _, h => Option.some_inj.mp h
  | s :: rest, n, found, h => by
    obtain ⟨next, htake, hrest⟩ := exists_of_follow?_cons h
    rw [find, List.foldl_cons, stepTo_of_take? htake]
    exact find_of_follow? hrest

/-! ## Walks by indices -/

/-- What an index is read as. -/
def indexScalars : Option Nat → List Scalar
  | none => []
  | some i => [.whole i]

/-- What a step is read as. -/
def stepScalars (s : Step) : List Scalar := .string s.name :: indexScalars s.index

theorem part?_of_named? {name : String} : ∀ {n found : Node}, n.named? name = some found →
    n.part? (.string name) = some found
  | missing, _, h => h
  | record _ _, _, h => h
  | list _, _, h => absurd h (by simp [named?])
  | scalar _, _, h => absurd h (by simp [named?])

theorem part?_of_itemAt? {i : Nat} : ∀ {n found : Node}, n.itemAt? i = some found →
    n.part? (.whole i) = some found
  | missing, _, h => h
  | list _, _, h => h
  | record _ _, _, h => absurd h (by simp [itemAt?])
  | scalar _, _, h => absurd h (by simp [itemAt?])

theorem walk?_cons_of_part? {n next : Node} {index : Scalar} (h : n.part? index = some next)
    (rest : List Scalar) : n.walk? (index :: rest) = next.walk? rest := by
  rw [walk?, h]

/-- One step is taken by the indices that it is read as. -/
theorem walk?_stepScalars {n next : Node} {s : Step} (h : n.take? s = some next)
    (rest : List Scalar) : n.walk? (stepScalars s ++ rest) = next.walk? rest := by
  rw [take?] at h
  rw [stepScalars]
  cases hindex : s.index with
  | none =>
    simp only [hindex] at h
    exact walk?_cons_of_part? (part?_of_named? h) rest
  | some i =>
    simp only [hindex] at h
    obtain ⟨found, hentry, hitem⟩ := Option.bind_eq_some_iff.mp h
    show n.walk? (.string s.name :: .whole i :: rest) = next.walk? rest
    rw [walk?_cons_of_part? (part?_of_named? hentry), walk?_cons_of_part? (part?_of_itemAt? hitem)]

/-- **The strict walk is the walk by the indices of a variable.** -/
theorem walk?_of_follow? : ∀ {steps : List Step} {n found : Node},
    n.follow? steps = some found → n.walk? (steps.flatMap stepScalars) = some found
  | [], _, _, h => h
  | s :: rest, n, found, h => by
    obtain ⟨next, htake, hrest⟩ := exists_of_follow?_cons h
    rw [List.flatMap_cons, walk?_stepScalars htake]
    exact walk?_of_follow? hrest

end Node

/-! ## Variables -/

/-- An index is its own value. -/
theorem evaluateIndices_bracketIndices (scope : Scope) (assigned : List (String × Value))
    {more : List Expression} {path : List Scalar}
    (h : evaluateIndices scope assigned more = some path) : ∀ index : Option Nat,
      evaluateIndices scope assigned (bracketIndices index ++ more) =
        some (Node.indexScalars index ++ path)
  | none => h
  | some i => by
    show evaluateIndices scope assigned (.literal (.scalar (.whole i)) :: more) = _
    rw [evaluateIndices, h]
    rfl

/-- The names and indices of steps are their own values. -/
theorem evaluateIndices_stepIndices (scope : Scope) (assigned : List (String × Value)) :
    ∀ steps : List Step, evaluateIndices scope assigned (steps.flatMap stepIndices) =
      some (steps.flatMap Node.stepScalars)
  | [] => rfl
  | s :: rest => by
    have hrest := evaluateIndices_bracketIndices scope assigned
      (evaluateIndices_stepIndices scope assigned rest) s.index
    rw [List.flatMap_cons, List.flatMap_cons, stepIndices, List.cons_append, evaluateIndices, hrest]
    rfl

/-- The variable of a path, where nothing binds its root and the walk along the path gets to its
end. -/
theorem evaluate_lookup {scope : Scope} {assigned : List (String × Value)} {found : Node}
    {path : Path} (hbound : boundValue? scope assigned path.root.name = none)
    (h : scope.data.follow? path.steps = some found) :
    Expression.evaluate scope assigned
        (.lookup path.root.name
          (bracketIndices path.root.index ++ path.rest.flatMap stepIndices)) =
      some found.toValue := by
  have hindices := evaluateIndices_bracketIndices scope assigned
    (evaluateIndices_stepIndices scope assigned path.rest) path.root.index
  have hwalk := Node.walk?_of_follow? h
  rw [Path.steps, List.flatMap_cons] at hwalk
  rw [Expression.evaluate, hindices]
  simp only [hbound]
  show (scope.data.walk? (Node.stepScalars path.root ++ path.rest.flatMap Node.stepScalars)).map
    Node.toValue = _
  rw [hwalk]
  rfl

/-! ## Chunks -/

/-- The fallback filter with the value of its text. -/
def fallbackValue (text : List Char) : Liquid.Filter Value :=
  .fallback (some (.ofText (String.ofList text)))

/-- The fallback filter shows a node. -/
theorem apply_fallbackValue (displayKey : String) (text : List Char) (n : Node) :
    ((fallbackValue text).apply displayKey n.toValue).map Value.text =
      some (n.shown displayKey (String.ofList text)) := by
  cases n with
  | missing => rfl
  | scalar s => rfl
  | list items => rfl
  | record key fields => rfl

/-- An expression behind which only the fallback filter stands. -/
theorem evaluate_fallbackWith {scope : Scope} {assigned : List (String × Value)}
    {entry : Expression} {v : Value} (h : entry.evaluate scope assigned = some v)
    (text : List Char) :
    Chain.evaluate scope assigned ⟨entry, [fallbackWith text]⟩ =
      (fallbackValue text).apply scope.displayKey v := by
  rw [Chain.evaluate, h, Option.bind_eq_bind, Option.bind_some, List.foldlM_cons]
  show ((fallbackValue text).apply scope.displayKey v).bind some = _
  exact Option.bind_fun_some _

/-- A look-up shows what the walk along its path ends on, where nothing binds its root. -/
theorem evaluate_chain_lookup {scope : Scope} {assigned : List (String × Value)} {found : Node}
    {path : Path} (hbound : boundValue? scope assigned path.root.name = none)
    (h : scope.data.follow? path.steps = some found) (text : List Char) :
    (((Expansion.lookup path).chain text).evaluate scope assigned).map Value.text =
      some (found.shown scope.displayKey (String.ofList text)) := by
  rw [Expansion.chain, evaluate_fallbackWith (evaluate_lookup hbound h)]
  exact apply_fallbackValue scope.displayKey text found

/-- **A tag that names nothing prints its fallback.** -/
theorem print?_chunk_unresolved (scope : Scope) (text : List Char) :
    (Expansion.unresolved.chunk text).print? scope = some (String.ofList text) := rfl

/-- **A tag that is looked up prints what the walk along its path ends on.** -/
theorem print?_chunk_lookup {displayKey : String} {data found : Node} {path : Path}
    (h : data.follow? path.steps = some found) (text : List Char) :
    ((Expansion.lookup path).chunk text).print? ⟨data, displayKey, []⟩ =
      some (found.shown displayKey (String.ofList text)) := by
  have hbound : boundValue? ⟨data, displayKey, []⟩ [] path.root.name = none := rfl
  exact evaluate_chain_lookup hbound h text

end TagTemplates
