import TagTemplates.Proofs.Dump.Record
import TagTemplates.Proofs.Registry.Known

/-!
# Walks through dumped data

A path that resolves is walked twice: by the resolver through the schemas, and by a render through
the nodes that the data were dumped to.  The two walks stay in step, whatever the data look like.

* `Node.take?`, `Node.follow?`: the strict walk through nodes, which nothing but records, lists and
  the missing node let pass.
* `Registry.dataAt`: the data that a path leads to.
* `Registry.dumpAt`: what a path has to end on, given the endpoint of the resolver.
* `take?_of_nested`, `take?_of_terminal`: one step through a dumped object.
* `follow?_dump`: a whole walk through it.
* `follow?_dump_of_resolve`: the walk along a path that resolves.
-/

namespace TagTemplates

theorem Json.eq_object_of_object? : ∀ {v : Json} {entries : List (String × Json)},
    v.object? = some entries → v = .object entries
  | .object _, _, h => congrArg Json.object (Option.some_inj.mp h)

namespace Node

/-- The field of a name, of a record or the missing node only. -/
def named? (name : String) : Node → Option Node
  | list _ => none
  | scalar _ => none
  | n => some (n.field name)

/-- The item at an index, of a list or the missing node only. -/
def itemAt? (index : Nat) : Node → Option Node
  | record _ _ => none
  | scalar _ => none
  | n => some (n.item index)

/-- Take one step: a name, and then perhaps an index. -/
def take? (n : Node) (s : Step) : Option Node :=
  match s.index with
  | none => n.named? s.name
  | some i => (n.named? s.name).bind (itemAt? i)

/-- Take several steps. -/
def follow? (n : Node) (steps : List Step) : Option Node := steps.foldlM take? n

theorem follow?_cons_of_take? {n next : Node} {s : Step} (h : n.take? s = some next)
    (rest : List Step) : n.follow? (s :: rest) = next.follow? rest := by
  rw [follow?, List.foldlM_cons, h]
  rfl

end Node

namespace Registry

variable {registry : Registry} {displayKey : String} {schema : Schema}

/-- The data that one step leads to. -/
def partAt (field : Field) (index : Option Nat) (v : Json) : Json :=
  match index with
  | none => v.entryOf field.name
  | some i => (v.entryOf field.name).itemOf i

/-- The data that steps lead to, through the fields that the schemas on the way declare. -/
def dataAt (registry : Registry) (schema : Schema) (v : Json) : List Step → Json
  | [] => v
  | s :: rest =>
    match registry.step schema s with
    | .ok (.nested field target) => registry.dataAt target (partAt field s.index v) rest
    | .ok (.terminal field) => partAt field s.index v
    | .error _ => .null

section AnyLibrary

variable [Liquid.Library]

/-- What a field that ends every path shows of the data of its record. -/
def dumpTerminal (registry : Registry) (displayKey : String) (owner : Schema) (field : Field)
    (v : Json) : Except TemplateError Node :=
  match field.kind with
  | .template text tags =>
    match v with
    | .object entries => do
      renderField displayKey (← registry.plainRecord displayKey owner entries) text tags
    | _ => .ok .missing
  | _ => .ok (.ofJson displayKey (v.entryOf field.name))

/-- What steps have to end on: the dump of a record, the list of the dumps of its items, a plain
value as it is, or a rendered template. -/
def dumpAt (registry : Registry) (displayKey : String) (root : Schema) (v : Json)
    (steps : List Step) : Endpoint → Except TemplateError Node
  | .record target =>
    if registry.endsOnList root steps then
      registry.dumpItems displayKey target (registry.dataAt root v steps)
    else registry.dump displayKey target (registry.dataAt root v steps)
  | .field owner field =>
    registry.dumpTerminal displayKey owner field (registry.dataAt root v steps.dropLast)

/-! ## One step -/

theorem dump_null (target : Schema) : registry.dump displayKey target .null = .ok .missing :=
  dump_of_ne_object rfl

theorem dumpBehind_null (field : Field) (target : Schema) :
    registry.dumpBehind displayKey field target .null = .ok .missing := by
  rw [dumpBehind]
  cases field.kind.isMany with
  | true => rfl
  | false => exact dump_null target

/-- What a dumped object holds for a declared field. -/
theorem named?_dump_object (hbuilt : schema.Built) (hreserves : schema.Reserves displayKey)
    {entries : List (String × Json)} {node : Node} {name : String} {field : Field}
    (h : registry.dump displayKey schema (.object entries) = .ok node)
    (hfield : schema.field? name = some field) :
    ∃ found plain, node.named? name = some found ∧
      registry.plainRecord displayKey schema entries = .ok plain ∧
      (field.kind.isTemplate = false →
        registry.dumpField displayKey schema entries field = .ok (some (field.name, found))) ∧
      ∀ text tags, field.kind = .template text tags →
        renderField displayKey plain text tags = .ok found := by
  obtain ⟨fields, plain, rfl, hplain, hall⟩ := exists_fieldAt?_of_dump hbuilt hreserves h
  obtain ⟨hmem, hkey⟩ := Schema.field?_eq_some hfield
  obtain ⟨found, hfound, hdump, hrender⟩ := hall field hmem
  refine ⟨found, plain, ?_, hplain, hdump, hrender⟩
  rw [hkey] at hfound
  show some ((Node.fieldAt? (Text.fold name) fields).getD .missing) = some found
  rw [hfound, Option.getD_some]

/-- Below data that are no object everything is missing. -/
theorem named?_dump_of_ne_object {v : Json} {node : Node} (hv : v.object? = none)
    (h : registry.dump displayKey schema v = .ok node) (name : String) :
    node.named? name = some .missing ∧ v.entryOf name = .null := by
  rw [dump_of_ne_object hv] at h
  obtain rfl : Node.missing = node := Except.ok.inj h
  refine ⟨rfl, ?_⟩
  cases v with
  | object entries => exact absurd hv (by simp [Json.object?])
  | _ => rfl

/-- What a nested field shows is the dump of what it holds. -/
theorem named?_dump_nested (hbuilt : schema.Built) (hreserves : schema.Reserves displayKey)
    {v : Json} {node : Node} {name : String} {field : Field} {target : Schema}
    (h : registry.dump displayKey schema v = .ok node) (hfield : schema.field? name = some field)
    (hterminal : field.kind.isTerminal = false)
    (htarget : registry.target schema field = .ok target) :
    ∃ found, node.named? name = some found ∧
      registry.dumpBehind displayKey field target (v.entryOf field.name) = .ok found := by
  cases hv : v.object? with
  | none =>
    obtain ⟨hentry, -⟩ := named?_dump_of_ne_object hv h name
    obtain ⟨-, hdata⟩ := named?_dump_of_ne_object hv h field.name
    rw [hdata]
    exact ⟨.missing, hentry, dumpBehind_null field target⟩
  | some entries =>
    obtain rfl := Json.eq_object_of_object? hv
    obtain ⟨found, plain, hentry, -, hdump, -⟩ := named?_dump_object hbuilt hreserves h hfield
    refine ⟨found, hentry, (dumpField_eq_ok_iff hterminal htarget).mp (hdump ?_)⟩
    rcases FieldKind.eq_nested hterminal with ⟨r, hkind⟩ | ⟨r, hkind⟩
    · rw [hkind]
      rfl
    · rw [hkind]
      rfl

/-- What a field that ends every path shows. -/
theorem named?_dump_terminal (hbuilt : schema.Built) (hreserves : schema.Reserves displayKey)
    {v : Json} {node : Node} {name : String} {field : Field}
    (h : registry.dump displayKey schema v = .ok node) (hfield : schema.field? name = some field)
    (hterminal : field.kind.isTerminal = true) :
    ∃ found, node.named? name = some found ∧
      registry.dumpTerminal displayKey schema field v = .ok found := by
  cases hv : v.object? with
  | none =>
    obtain ⟨hentry, -⟩ := named?_dump_of_ne_object hv h name
    obtain ⟨-, hdata⟩ := named?_dump_of_ne_object hv h field.name
    refine ⟨.missing, hentry, ?_⟩
    rw [dumpTerminal]
    cases hkind : field.kind with
    | template text tags =>
      cases v with
      | object entries => exact absurd hv (by simp [Json.object?])
      | _ => rfl
    | _ =>
      simp only [hdata]
      rfl
  | some entries =>
    obtain rfl := Json.eq_object_of_object? hv
    obtain ⟨found, plain, hentry, hplain, hdump, hrender⟩ :=
      named?_dump_object hbuilt hreserves h hfield
    refine ⟨found, hentry, ?_⟩
    rw [dumpTerminal]
    rcases FieldKind.eq_terminal hterminal with hkind | ⟨text, tags, hkind⟩
    · have hscalar := hdump (by rw [hkind]; rfl)
      rw [dumpField_scalar hkind] at hscalar
      rw [hkind]
      simpa using hscalar
    · rw [hkind]
      exact bind_eq_ok_iff.mpr ⟨plain, hplain, hrender text tags hkind⟩

/-- The items of a dumped list are the dumps of its items. -/
theorem itemAt?_dumpItems {target : Schema} {v : Json} {node : Node}
    (h : registry.dumpItems displayKey target v = .ok node) (i : Nat) :
    ∃ item, node.itemAt? i = some item ∧
      registry.dump displayKey target (v.itemOf i) = .ok item := by
  cases v with
  | array items =>
    obtain ⟨nodes, hnodes, hlist⟩ := bind_eq_ok_iff.mp h
    obtain rfl : Node.list nodes = node := Except.ok.inj hlist
    have hitem : (Node.list nodes).itemAt? i = some (nodes[i]?.getD .missing) := by
      show some ((Value.itemAt? nodes i).getD .missing) = _
      have hpos : ¬(i : Int) < 0 := Int.not_lt.mpr (Int.natCast_nonneg i)
      rw [Value.itemAt?, if_neg hpos, if_neg hpos, Int.toNat_natCast]
    rw [hitem, Json.itemOf]
    rcases getElem?_of_mapM_eq_ok hnodes i with ⟨hv, hn⟩ | ⟨item, n, hv, hn, hdump⟩
    · rw [hv, hn]
      exact ⟨.missing, rfl, dump_null target⟩
    · rw [hv, hn]
      exact ⟨n, rfl, hdump⟩
  | _ =>
    obtain rfl : Node.missing = node := Except.ok.inj h
    exact ⟨.missing, rfl, dump_null target⟩

/-- A step to a record leads to the dump of its data. -/
theorem take?_of_nested (hbuilt : schema.Built) (hreserves : schema.Reserves displayKey) {v : Json}
    {node : Node} {s : Step} {field : Field} {target : Schema}
    (h : registry.dump displayKey schema v = .ok node)
    (hs : registry.step schema s = .ok (.nested field target))
    (hlist : (field.kind.isMany && s.index.isNone) = false) :
    ∃ next, node.take? s = some next ∧
      registry.dump displayKey target (partAt field s.index v) = .ok next := by
  obtain ⟨hfield, hindex, hterminal, htarget⟩ := step_eq_ok_nested hs
  obtain ⟨found, hentry, hdump⟩ :=
    named?_dump_nested hbuilt hreserves h hfield hterminal htarget
  rw [dumpBehind] at hdump
  rw [Node.take?]
  cases hi : s.index with
  | none =>
    have hone : field.kind.isMany = false := by simpa [hi] using hlist
    rw [if_neg (by simp [hone])] at hdump
    exact ⟨found, hentry, hdump⟩
  | some i =>
    rw [if_pos (hindex (by rw [hi]; rfl))] at hdump
    simp only [hentry]
    exact itemAt?_dumpItems hdump i

/-- A step to a list leads to the dumps of its items. -/
theorem take?_of_list (hbuilt : schema.Built) (hreserves : schema.Reserves displayKey) {v : Json}
    {node : Node} {s : Step} {field : Field} {target : Schema}
    (h : registry.dump displayKey schema v = .ok node)
    (hs : registry.step schema s = .ok (.nested field target))
    (hlist : (field.kind.isMany && s.index.isNone) = true) :
    ∃ next, node.take? s = some next ∧
      registry.dumpItems displayKey target (partAt field s.index v) = .ok next := by
  obtain ⟨hfield, -, hterminal, htarget⟩ := step_eq_ok_nested hs
  obtain ⟨hmany, hindex⟩ := Bool.and_eq_true_iff.mp hlist
  obtain ⟨found, hentry, hdump⟩ :=
    named?_dump_nested hbuilt hreserves h hfield hterminal htarget
  rw [dumpBehind, if_pos hmany] at hdump
  rw [Node.take?, Option.isNone_iff_eq_none.mp hindex]
  exact ⟨found, hentry, hdump⟩

/-- A step to a field that ends every path. -/
theorem take?_of_terminal (hbuilt : schema.Built) (hreserves : schema.Reserves displayKey)
    {v : Json} {node : Node} {s : Step} {field : Field}
    (h : registry.dump displayKey schema v = .ok node)
    (hs : registry.step schema s = .ok (.terminal field)) :
    ∃ next, node.take? s = some next ∧
      registry.dumpTerminal displayKey schema field v = .ok next := by
  obtain ⟨hfield, hindex, hterminal⟩ := step_eq_ok_terminal hs
  rw [Node.take?, hindex]
  exact named?_dump_terminal hbuilt hreserves h hfield hterminal

/-! ## Whole walks -/

/-- Behind a nested field with further steps, the walk ends where the walk from there ends. -/
theorem dumpAt_cons_of_nested {v : Json} {s t : Step} {rest : List Step} {field : Field}
    {target : Schema} (hs : registry.step schema s = .ok (.nested field target)) :
    ∀ last : Endpoint, registry.dumpAt displayKey schema v (s :: t :: rest) last =
      registry.dumpAt displayKey target (partAt field s.index v) (t :: rest) last
  | .record last => by
    have hends : registry.endsOnList schema (s :: t :: rest) =
        registry.endsOnList target (t :: rest) := by
      rw [endsOnList]
      simp only [hs]
      rfl
    have hdata : registry.dataAt schema v (s :: t :: rest) =
        registry.dataAt target (partAt field s.index v) (t :: rest) := by
      rw [dataAt]
      simp only [hs]
    rw [dumpAt, dumpAt, hends, hdata]
  | .field owner last => by
    have hdata : registry.dataAt schema v (s :: (t :: rest).dropLast) =
        registry.dataAt target (partAt field s.index v) (t :: rest).dropLast := by
      rw [dataAt]
      simp only [hs]
    rw [dumpAt, dumpAt, List.dropLast_cons_cons, hdata]

/-- The last step of a walk, to a nested field: its record, or the list of its records. -/
theorem dumpAt_of_take? (hbuilt : schema.Built) (hreserves : schema.Reserves displayKey) {v : Json}
    {node : Node} {s : Step} {field : Field} {target : Schema}
    (h : registry.dump displayKey schema v = .ok node)
    (hs : registry.step schema s = .ok (.nested field target)) :
    ∃ next, node.take? s = some next ∧
      registry.dumpAt displayKey schema v [s] (.record target) = .ok next := by
  have hends : registry.endsOnList schema [s] = (field.kind.isMany && s.index.isNone) := by
    rw [endsOnList]
    simp only [hs]
    rfl
  have hdata : registry.dataAt schema v [s] = partAt field s.index v := by
    rw [dataAt]
    simp only [hs]
    rfl
  rw [dumpAt, hends, hdata]
  by_cases hlist : (field.kind.isMany && s.index.isNone) = true
  · rw [if_pos hlist]
    exact take?_of_list hbuilt hreserves h hs hlist
  · rw [if_neg hlist]
    exact take?_of_nested hbuilt hreserves h hs (Bool.not_eq_true _ ▸ hlist)

/-- **Both walks stay in step.**  Where the resolver walks from a schema without crossing a list,
the walk through data that were dumped as an instance of that schema ends on the dump of the data
that the steps lead to. -/
theorem follow?_dump (hbuilt : ∀ schema, registry.Knows schema → schema.Built)
    (hreserves : ∀ schema, registry.Knows schema → schema.Reserves displayKey) :
    ∀ (steps : List Step) {schema : Schema} {v : Json} {node : Node} {last : Endpoint},
      registry.Knows schema → steps.foldlM registry.advance (.record schema) = .ok last →
        registry.crosses (.record schema) steps = false →
          registry.dump displayKey schema v = .ok node →
            ∃ found, node.follow? steps = some found ∧
              registry.dumpAt displayKey schema v steps last = .ok found
  | [], schema, v, node, last, _, hwalk, _, h => by
    obtain rfl : Endpoint.record schema = last := Except.ok.inj hwalk
    exact ⟨node, rfl, h⟩
  | s :: rest, schema, v, node, last, hknows, hwalk, hcrosses, h => by
    have hb := hbuilt schema hknows
    have hr := hreserves schema hknows
    cases hs : registry.step schema s with
    | error e =>
      rw [foldlM_advance_cons_of_error (advance_record_of_error hs)] at hwalk
      exact absurd hwalk (by simp)
    | ok landing =>
      cases landing with
      | terminal field =>
        rw [foldlM_advance_cons_of_ok (advance_record_of_terminal hs)] at hwalk
        cases rest with
        | nil =>
          obtain rfl : Endpoint.field schema field = last := Except.ok.inj hwalk
          obtain ⟨next, htake, hdump⟩ := take?_of_terminal hb hr h hs
          exact ⟨next, Node.follow?_cons_of_take? htake [], hdump⟩
        | cons t rest =>
          rw [foldlM_advance_cons_of_error (advance_field schema field t)] at hwalk
          exact absurd hwalk (by simp)
      | nested field target =>
        rw [foldlM_advance_cons_of_ok (advance_record_of_nested hs)] at hwalk
        cases rest with
        | nil =>
          obtain rfl : Endpoint.record target = last := Except.ok.inj hwalk
          obtain ⟨next, htake, hdump⟩ := dumpAt_of_take? hb hr h hs
          exact ⟨next, Node.follow?_cons_of_take? htake [], hdump⟩
        | cons t rest =>
          rw [crosses] at hcrosses
          simp only [hs] at hcrosses
          obtain ⟨hlist, hrest⟩ := Bool.or_eq_false_iff.mp hcrosses
          have hone : (field.kind.isMany && s.index.isNone) = false := by simpa using hlist
          obtain ⟨next, htake, hdump⟩ := take?_of_nested hb hr h hs hone
          rw [Node.follow?_cons_of_take? htake, dumpAt_cons_of_nested hs]
          exact follow?_dump hbuilt hreserves (t :: rest) (hknows.step hs) hwalk hrest hdump

/-- **The walk of a path that resolves, through dumped data.**  It never meets a scalar before its
end, a record where an index is taken or a list where a name is taken, and it ends on what the
endpoint of the resolver asks for. -/
theorem follow?_dump_of_resolve (hbuilt : ∀ schema, registry.Knows schema → schema.Built)
    (hreserves : ∀ schema, registry.Knows schema → schema.Reserves displayKey) {name : String}
    {steps : List Step} {r : Resolution} {v : Json} {node : Node}
    (hresolve : registry.resolve name steps = .ok r) (hthrough : r.throughList = false)
    (hdump : registry.dump displayKey r.root v = .ok node) :
    ∃ found, node.follow? r.steps = some found ∧
      registry.dumpAt displayKey r.root v r.steps r.endpoint = .ok found := by
  obtain ⟨hlookup, -, hwalk, hcrosses⟩ := resolve_eq_ok_iff.mp hresolve
  have hknows : registry.Knows r.root := Knows.registered (mem_of_lookup?_eq_some hlookup).1
  exact follow?_dump hbuilt hreserves r.steps hknows hwalk (hcrosses.symm.trans hthrough) hdump

end AnyLibrary

/-! ## A kennel -/

/-- A dog has a name. -/
def dogSchema : Schema := ⟨1, "Dog", [⟨"name", .scalar⟩], none⟩

/-- A user has dogs. -/
def userSchema : Schema := ⟨0, "User", [⟨"dogs", .many (.direct dogSchema)⟩], none⟩

/-- Users are registered, and dogs only held by them. -/
def kennel : Registry := ⟨[userSchema]⟩

theorem knows_kennel {schema : Schema} (h : kennel.Knows schema) :
    schema = userSchema ∨ schema = dogSchema := by
  induction h with
  | registered hmem => exact Or.inl (List.mem_singleton.mp hmem)
  | @held owner schema field _ hfield htarget ih =>
    rcases ih with rfl | rfl
    · rw [List.mem_singleton.mp hfield] at htarget
      exact Or.inr (SchemaRef.direct.inj (Option.some_inj.mp htarget)).symm
    · rw [List.mem_singleton.mp hfield] at htarget
      exact absurd htarget (by simp [FieldKind.target?])

theorem built_kennel : ∀ schema, kennel.Knows schema → schema.Built := by
  intro schema h
  rcases knows_kennel h with rfl | rfl
  · exact ⟨0, ⟨"User", userSchema.fields, none⟩, by decide +kernel⟩
  · exact ⟨1, ⟨"Dog", dogSchema.fields, none⟩, by decide +kernel⟩

theorem reserves_kennel : ∀ schema, kennel.Knows schema → schema.Reserves "shown" := by
  intro schema h field hfield hkey
  rcases knows_kennel h with rfl | rfl
  · rw [List.mem_singleton.mp hfield] at hkey
    exact absurd hkey (by decide +kernel)
  · rw [List.mem_singleton.mp hfield] at hkey
    exact absurd hkey (by decide +kernel)

theorem dump_dogSchema : kennel.dump "shown" dogSchema (.object [("name", .string "Rex")]) =
    .ok (.record "shown" [("name", .ofText "Rex")]) := by
  rw [dump]
  show ([(⟨"name", .scalar⟩ : Field)].mapM (kennel.dumpField "shown" dogSchema _) >>= _) = _
  rw [List.mapM_cons, dumpField_scalar rfl, List.mapM_nil]
  rfl

theorem dump_userSchema :
    kennel.dump "shown" userSchema
        (.object [("dogs", .array [.object [("name", .string "Rex")]])]) =
      .ok (.record "shown"
        [("dogs", .list [.record "shown" [("name", .ofText "Rex")]])]) := by
  have hdogs : (Json.object [("dogs", .array [.object [("name", .string "Rex")]])]).entryOf "dogs" =
      .array [.object [("name", .string "Rex")]] := rfl
  have hitems : kennel.dumpItems "shown" dogSchema (.array [.object [("name", .string "Rex")]]) =
      .ok (.list [.record "shown" [("name", .ofText "Rex")]]) := by
    rw [dumpItems, List.mapM_cons, dump_dogSchema, List.mapM_nil]
    rfl
  rw [dump]
  show ([(⟨"dogs", .many (.direct dogSchema)⟩ : Field)].mapM
    (kennel.dumpField "shown" userSchema _) >>= _) = _
  rw [List.mapM_cons, dumpField_many rfl rfl, List.mapM_nil]
  simp only [hdogs, hitems]
  rfl

/-- The name of a user's first dog is found where the resolver says it is. -/
theorem follow?_dump_of_dogs :
    ∃ found, (Node.record "shown"
        [("dogs", .list [.record "shown" [("name", .ofText "Rex")]])]).follow?
          [⟨"dogs", some 0⟩, ⟨"name", none⟩] = some found ∧
      kennel.dumpAt "shown" userSchema
        (.object [("dogs", .array [.object [("name", .string "Rex")]])])
        [⟨"dogs", some 0⟩, ⟨"name", none⟩] (.field dogSchema ⟨"name", .scalar⟩) = .ok found := by
  have hresolve : kennel.resolve "user" [⟨"dogs", some 0⟩, ⟨"name", none⟩] =
      .ok ⟨userSchema, [⟨"dogs", some 0⟩, ⟨"name", none⟩], .field dogSchema ⟨"name", .scalar⟩,
        false⟩ := by
    decide +kernel
  exact follow?_dump_of_resolve built_kennel reserves_kennel hresolve rfl dump_userSchema

end Registry

end TagTemplates
