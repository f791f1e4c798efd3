import TagTemplates.Proofs.Dump.LetterCase
import TagTemplates.Proofs.Dump.Walk
import TagTemplates.Proofs.Node.Finalization

/-!
# Lenient and plain lookups

Data without a schema can be walked in two forms.  Their plain value is walked strictly: an object
has an entry for each of its folded keys, a list has its items, and there is nothing else to be
found.  Their nodes are walked leniently: whatever a record or a list has not is the missing node,
and so is every name below that node.

The lenient walk goes wherever the plain one goes, and finds the same.  Where the plain walk fails
for want of a key or of an item, or below nil, the lenient one goes on through missing nodes.

* `Lookup`: a name or an index, with `Json.look?`, `Value.look?` and `Node.look?` for what is found.
* `Value.Lacks`: the failures that the lenient walk passes over.
* `fieldAt?_insertFields`: of the nodes that are put under one name the last one is kept.
* `look?_toValue_ofJson`, `look?_of_toValue`, `look?_of_lacks`: one lookup.
* `foldlM_look?_toValue_ofJson`, `foldlM_look?_of_toValue`: a whole walk.
* `lenient_walk_extends_plain`: both walks through the same data.
-/

namespace TagTemplates

/-- What is looked up in data: a name in any case, or an index, which counts from the end when it is
negative. -/
inductive Lookup where
  | name (name : String)
  | index (index : Int)

/-! ## What is found -/

namespace Json

/-- Look something up in data.  Of the keys of an object that are the name up to case the last one
counts. -/
def look? : Json → Lookup → Option Json
  | object entries, .name name =>
    (entries.reverse.find? fun e => Text.sameName e.1 name).map (·.2)
  | array items, .index index => Value.itemAt? items index
  | _, _ => none

end Json

namespace Value

/-- Look something up in a plain value: the folded name among the keys of an object, an index in a
list. -/
def look? : Value → Lookup → Option Value
  | object entries, .name name => valueAt? (Text.fold name) entries
  | list items, .index index => itemAt? items index
  | _, _ => none

/-- A plain value does not have what is looked up: a key that is absent, an index outside of the
list, or a name below nil. -/
inductive Lacks : Value → Lookup → Prop where
  | key {entries : List (String × Value)} {name : String} :
      (∀ e ∈ entries, e.1 ≠ Text.fold name) → Lacks (object entries) (.name name)
  | item {items : List Value} {index : Int} :
      (index < -items.length ∨ items.length ≤ index) → Lacks (list items) (.index index)
  | nil (name : String) : Lacks nil (.name name)

variable {α β : Type} {items : List α} {index : Int}

theorem itemAt?_map (f : α → β) (items : List α) (index : Int) :
    itemAt? (items.map f) index = (itemAt? items index).map f := by
  simp only [itemAt?, List.length_map, List.getElem?_map]
  split_ifs <;> rfl

/-- An index finds nothing outside of a list. -/
theorem itemAt?_eq_none (h : index < -items.length ∨ items.length ≤ index) :
    itemAt? items index = none := by
  simp only [itemAt?]
  split_ifs
  · rfl
  · rw [List.getElem?_eq_none_iff]
    omega
  · rw [List.getElem?_eq_none_iff]
    omega

theorem valueAt?_eq_none {entries : List (String × Value)} {key : String}
    (h : ∀ e ∈ entries, e.1 ≠ key) : valueAt? key entries = none := by
  rw [valueAt?, Option.map_eq_none_iff, List.find?_eq_none]
  exact fun e he => by simpa using h e he

/-- What a value lacks is not found. -/
theorem Lacks.look?_eq_none {value : Value} {lookup : Lookup} (h : value.Lacks lookup) :
    value.look? lookup = none := by
  cases h with
  | key habsent => exact valueAt?_eq_none habsent
  | item houtside => exact itemAt?_eq_none houtside
  | nil name => rfl

end Value

namespace Node

variable {displayKey : String} {n m : Node} {lookup : Lookup} {value : Value}

/-- Look something up in a node: a name in a record or the missing node, an index in a list.  There
is always something to be found. -/
def look? : Node → Lookup → Option Node
  | list items, .index index => some ((list items).item index)
  | n, .name name => n.named? name
  | _, .index _ => none

/-! ## One lookup -/

/-- **Of the nodes that are put under one name the last one is kept.** -/
theorem fieldAt?_insertFields (name : String) : ∀ nodes fields : List (String × Node),
    fieldAt? (Text.fold name) (insertFields nodes fields) =
      ((nodes.reverse.find? fun e => Text.sameName e.1 name).map (·.2)).or
        (fieldAt? (Text.fold name) fields)
  | [], _ => rfl
  | e :: nodes, fields => by
    rw [insertFields_cons, fieldAt?_insertFields name nodes, List.reverse_cons, List.find?_append]
    cases nodes.reverse.find? fun e => Text.sameName e.1 name with
    | some later => rfl
    | none =>
      rw [Option.none_or, Option.map_none, Option.none_or, insertField, List.find?_singleton]
      by_cases hname : Text.sameName e.1 name = true
      · rw [if_pos hname, Text.sameName_iff.mp hname, fieldAt?_putField_self]
        rfl
      · have hne : Text.fold name ≠ Text.fold e.1 :=
          fun heq => hname (Text.sameName_iff.mpr heq.symm)
        rw [if_neg hname, fieldAt?_putField_of_ne hne]
        rfl

/-- The plain value of data has what the data have. -/
theorem look?_toValue_ofJson (data : Json) (lookup : Lookup) :
    (ofJson displayKey data).toValue.look? lookup =
      (data.look? lookup).map fun part => (ofJson displayKey part).toValue := by
  cases data with
  | object entries =>
    cases lookup with
    | index index => rfl
    | name name =>
      have hfields : ofJson displayKey (.object entries) =
          record displayKey (insertFields (ofEntries displayKey entries) []) := rfl
      rw [hfields, toValue, Value.look?, valueAt?_toEntries, fieldAt?_insertFields, Json.look?,
        ofEntries_eq_map, ← List.map_reverse, List.find?_map]
      show Option.map _ (Option.or _ none) = _
      rw [Option.or_none, Option.map_map, Option.map_map, Option.map_map]
      rfl
  | array items =>
    cases lookup with
    | name name => rfl
    | index index =>
      rw [ofJson, toValue, Value.look?, toValues_eq_map, ofItems_eq_map, Value.itemAt?_map,
        Value.itemAt?_map, Option.map_map]
      rfl
  | _ => cases lookup <;> rfl

/-- What the plain value of a node has is found in the node. -/
theorem look?_of_toValue (h : n.toValue.look? lookup = some value) :
    ∃ m, n.look? lookup = some m ∧ m.toValue = value := by
  cases n with
  | missing => cases lookup <;> exact absurd h (by simp [toValue, Value.look?])
  | scalar s => cases lookup <;> exact absurd h (by simp [toValue, Value.look?])
  | list items =>
    cases lookup with
    | name name => exact absurd h (by simp [toValue, Value.look?])
    | index index =>
      rw [toValue, Value.look?, toValues_eq_map, Value.itemAt?_map] at h
      obtain ⟨m, hm, rfl⟩ := Option.map_eq_some_iff.mp h
      refine ⟨m, ?_, rfl⟩
      rw [look?, item, hm, Option.getD_some]
  | record key fields =>
    cases lookup with
    | index index => exact absurd h (by simp [toValue, Value.look?])
    | name name =>
      rw [toValue, Value.look?, valueAt?_toEntries] at h
      obtain ⟨m, hm, rfl⟩ := Option.map_eq_some_iff.mp h
      refine ⟨m, ?_, rfl⟩
      show some ((fieldAt? (Text.fold name) fields).getD missing) = some m
      rw [hm, Option.getD_some]

/-- What the plain value of a node lacks is missing in the node. -/
theorem look?_of_lacks (h : n.toValue.Lacks lookup) : n.look? lookup = some missing := by
  have hnone := h.look?_eq_none
  cases n with
  | missing =>
    cases h with
    | nil name => rfl
  | scalar s => cases h
  | list items =>
    cases lookup with
    | name name => cases h
    | index index =>
      rw [toValue, Value.look?, toValues_eq_map, Value.itemAt?_map, Option.map_eq_none_iff] at hnone
      rw [look?, item, hnone, Option.getD_none]
  | record key fields =>
    cases lookup with
    | index index => cases h
    | name name =>
      rw [toValue, Value.look?, valueAt?_toEntries, Option.map_eq_none_iff] at hnone
      show some ((fieldAt? (Text.fold name) fields).getD missing) = some missing
      rw [hnone, Option.getD_none]

/-! ## Walks -/

/-- The plain value of data is walked as the data are. -/
theorem foldlM_look?_toValue_ofJson : ∀ (path : List Lookup) (data : Json),
    path.foldlM Value.look? (ofJson displayKey data).toValue =
      (path.foldlM Json.look? data).map fun part => (ofJson displayKey part).toValue
  | [], _ => rfl
  | lookup :: path, data => by
    rw [List.foldlM_cons, List.foldlM_cons, look?_toValue_ofJson]
    cases data.look? lookup with
    | none => rfl
    | some part => exact foldlM_look?_toValue_ofJson path part

/-- **Where the plain walk goes, the lenient one goes**, and finds the same. -/
theorem foldlM_look?_of_toValue : ∀ {path : List Lookup} {n : Node} {value : Value},
    path.foldlM Value.look? n.toValue = some value →
      ∃ m, path.foldlM look? n = some m ∧ m.toValue = value
  | [], n, _, h => ⟨n, rfl, Option.some_inj.mp h⟩
  | lookup :: path, n, value, h => by
    rw [List.foldlM_cons] at h ⊢
    obtain ⟨next, hnext, hrest⟩ := Option.bind_eq_some_iff.mp h
    obtain ⟨m, hm, rfl⟩ := look?_of_toValue hnext
    rw [hm]
    exact foldlM_look?_of_toValue hrest

/-- Below the missing node every name is missing. -/
theorem foldlM_look?_missing : ∀ names : List String,
    (names.map Lookup.name).foldlM look? missing = some missing
  | [] => rfl
  | name :: names => by
    have hname : missing.look? (.name name) = some missing := rfl
    rw [List.map_cons, List.foldlM_cons, hname]
    exact foldlM_look?_missing names

/-- **The lenient walk extends the plain one.**  Where the plain walk through data finds a value,
the lenient walk through their nodes finds a node with this plain value.  Where the plain walk fails
at a key that is absent, an index outside of its list, or a name below nil, the lenient one gives
the missing node, there and at every name behind it.  And the plain walk finds what the data hold,
where of keys that are equal up to case the last one counts. -/
theorem lenient_walk_extends_plain (displayKey : String) (data : Json) :
    (∀ (path : List Lookup) (value : Value),
      path.foldlM Value.look? (ofJson displayKey data).toValue = some value →
      ∃ m, path.foldlM look? (ofJson displayKey data) = some m ∧ m.toValue = value) ∧
    (∀ (front : List Lookup) (lookup : Lookup) (value : Value),
      front.foldlM Value.look? (ofJson displayKey data).toValue = some value →
      value.Lacks lookup →
        (front ++ [lookup]).foldlM Value.look? (ofJson displayKey data).toValue = none ∧
        ∀ names : List String, (front ++ lookup :: names.map Lookup.name).foldlM look?
          (ofJson displayKey data) = some missing) ∧
    ∀ path : List Lookup, path.foldlM Value.look? (ofJson displayKey data).toValue =
      (path.foldlM Json.look? data).map fun part => (ofJson displayKey part).toValue := by
  refine ⟨fun path value => foldlM_look?_of_toValue, fun front lookup value hfront hlacks => ?_,
    fun path => foldlM_look?_toValue_ofJson path data⟩
  obtain ⟨m, hm, rfl⟩ := foldlM_look?_of_toValue hfront
  constructor
  · rw [List.foldlM_append, hfront]
    show ([lookup].foldlM Value.look? m.toValue) = none
    rw [List.foldlM_cons, hlacks.look?_eq_none]
    rfl
  · intro names
    rw [List.foldlM_append, hm]
    show (lookup :: names.map Lookup.name).foldlM look? m = some missing
    rw [List.foldlM_cons, look?_of_lacks hlacks]
    exact foldlM_look?_missing names

/-- The last dog is found by the last of its two names, and below the first one, which is null,
every name is missing. -/
theorem lenient_walk_extends_plain_of_dogs :
    let dogs : Json := .object [("Dogs", .array [.null,
      .object [("NAME", .string "Rex"), ("name", .string "Ace")]])]
    (∃ m, [Lookup.name "DOGS", .index (-1), .name "Name"].foldlM look? (ofJson "label" dogs) =
        some m ∧ m.toValue = .ofText "Ace") ∧
      [Lookup.name "dogs", .index 0, .name "owner", .name "name"].foldlM look?
        (ofJson "label" dogs) = some missing := by
  intro dogs
  obtain ⟨hfound, hmissing, hplain⟩ := lenient_walk_extends_plain "label" dogs
  refine ⟨hfound _ _ ((hplain _).trans rfl), ?_⟩
  exact (hmissing [.name "dogs", .index 0] (.name "owner") .nil ((hplain _).trans rfl)
    (.nil "owner")).2 ["name"]

end Node

end TagTemplates
