import TagTemplates.Proofs.Registry.Identifiers
import TagTemplates.Proofs.Dump.Walk
import TagTemplates.Session

/-!
# The data that a session renders

The data of a render hold one field for each registered root that the caller gave data for.  Names
are compared folded, so of several entries for one root the last one counts.

* `lastValue?`, `rootData`: the data that the caller gave for a root.
* `holdsDump_insertFields`: what the roots are dumped to.
* `named?_context`: what the data of a render hold for a root.
* `follow?_context`: what they hold for the canonical path of a tag that resolves.
-/

namespace TagTemplates

namespace Session

/-- The value of the last entry under a folded name. -/
def lastValue? (key : String) : List (String × Json) → Option Json
  | [] => none
  | (name, v) :: rest => lastValue? key rest <|> if Text.fold name = key then some v else none

/-- The data that the caller gave for a root: null when there are none. -/
def rootData (key : String) (entries : List (String × Json)) : Json :=
  (lastValue? key entries).getD .null

variable [Liquid.Library] {registry : Registry} {displayKey : String}

/-- What dumping one more entry adds. -/
theorem dumpRoots_cons_eq_ok {name : String} {v : Json} {rest : List (String × Json)}
    {nodes : List (String × Node)}
    (h : dumpRoots registry displayKey ((name, v) :: rest) = .ok nodes) :
    (registry.lookup? name = none ∧ dumpRoots registry displayKey rest = .ok nodes) ∨
      ∃ schema node more, registry.lookup? name = some schema ∧
        registry.dump displayKey schema v = .ok node ∧
        dumpRoots registry displayKey rest = .ok more ∧ nodes = (name, node) :: more := by
  rw [dumpRoots] at h
  cases hlookup : registry.lookup? name with
  | none =>
    rw [hlookup] at h
    exact Or.inl ⟨rfl, h⟩
  | some schema =>
    simp only [hlookup] at h
    obtain ⟨node, hnode, h⟩ := bind_eq_ok_iff.mp h
    obtain ⟨more, hmore, h⟩ := bind_eq_ok_iff.mp h
    exact Or.inr ⟨schema, node, more, rfl, hnode, hmore, (Except.ok.inj h).symm⟩

/-- What a record holds for a root after the entries for it were dumped into it: the dump of the
last one, or what it held before. -/
def HoldsDump (registry : Registry) (displayKey : String) (root : Schema)
    (fields before : List (String × Node)) : Option Json → Prop
  | none => Node.fieldAt? root.key fields = Node.fieldAt? root.key before
  | some v => ∃ node, Node.fieldAt? root.key fields = some node ∧
      registry.dump displayKey root v = .ok node

/-- **What the entries for a root are dumped to.**  Nodes are put into the record one after another,
so the induction is on the entries, for whatever fields the record has before them. -/
theorem holdsDump_insertFields {root : Schema}
    (hroot : ∀ name, Text.fold name = root.key → registry.lookup? name = some root) :
    ∀ {entries : List (String × Json)} {nodes : List (String × Node)},
      dumpRoots registry displayKey entries = .ok nodes → ∀ before : List (String × Node),
        HoldsDump registry displayKey root (Node.insertFields nodes before) before
          (lastValue? root.key entries)
  | [], nodes, h, before => by
    obtain rfl : [] = nodes := Except.ok.inj h
    rfl
  | (name, v) :: rest, nodes, h, before => by
    rw [lastValue?]
    rcases dumpRoots_cons_eq_ok h with
      ⟨hnone, hrest⟩ | ⟨schema, node, more, hsome, hnode, hmore, rfl⟩
    · have hne : Text.fold name ≠ root.key := by
        intro heq
        exact absurd (hnone.symm.trans (hroot name heq)) (by simp)
      have hlast : (lastValue? root.key rest <|> none) = lastValue? root.key rest := by
        cases lastValue? root.key rest <;> rfl
      rw [if_neg hne, hlast]
      exact holdsDump_insertFields hroot hrest before
    · have ih := holdsDump_insertFields hroot hmore (Node.insertField name node before)
      rw [Node.insertFields_cons]
      cases hlast : lastValue? root.key rest with
      | some w =>
        rw [hlast] at ih
        exact ih
      | none =>
        rw [hlast] at ih
        have hheld : Node.fieldAt? root.key _ = Node.fieldAt? root.key _ := ih
        by_cases heq : Text.fold name = root.key
        · obtain rfl : schema = root := Option.some_inj.mp (hsome.symm.trans (hroot name heq))
          rw [if_pos heq]
          refine ⟨node, ?_, hnode⟩
          rw [hheld, Node.insertField, heq, Node.fieldAt?_putField_self]
        · rw [if_neg heq]
          show Node.fieldAt? root.key _ = _
          rw [hheld, Node.insertField, Node.fieldAt?_putField_of_ne (Ne.symm heq)]

variable {session : Session} {entries : List (String × Json)} {context : Node}

/-- **What the data of a render hold for a registered root.** -/
theorem named?_context {name : String} {root : Schema} (h : session.context entries = .ok context)
    (hroot : session.registry.lookup? name = some root) :
    ∃ found, context.named? root.key = some found ∧
      session.registry.dump session.displayKey root (rootData root.key entries) = .ok found := by
  obtain ⟨nodes, hnodes, hcontext⟩ := bind_eq_ok_iff.mp h
  obtain rfl : Node.ofFields session.displayKey nodes = context := Except.ok.inj hcontext
  have hkey : ∀ other, Text.fold other = root.key → session.registry.lookup? other = some root := by
    intro other hother
    rw [(Registry.mem_of_lookup?_eq_some hroot).2] at hother
    rw [Registry.lookup?_congr hother, hroot]
  have hnamed : (Node.ofFields session.displayKey nodes).named? root.key =
      some ((Node.fieldAt? root.key (Node.insertFields nodes [])).getD .missing) := by
    show some ((Node.fieldAt? (Text.fold root.key) (Node.insertFields nodes [])).getD .missing) = _
    rw [Schema.key, Text.fold_fold]
  have hheld := holdsDump_insertFields hkey hnodes []
  rw [hnamed, rootData]
  cases hlast : lastValue? root.key entries with
  | none =>
    rw [hlast] at hheld
    have hnone : Node.fieldAt? root.key (Node.insertFields nodes []) = none := hheld
    rw [hnone]
    exact ⟨.missing, rfl, Registry.dump_null root⟩
  | some v =>
    rw [hlast] at hheld
    obtain ⟨node, hnode, hdump⟩ := hheld
    rw [hnode]
    exact ⟨node, rfl, hdump⟩

/-- **What the data of a render hold for a tag that resolves.**  The walk along the canonical path
gets to its end, whatever the data look like. -/
theorem follow?_context
    (hbuilt : ∀ schema, session.registry.Knows schema → schema.Built)
    (hreserves : ∀ schema, session.registry.Knows schema → schema.Reserves session.displayKey)
    (h : session.context entries = .ok context) {path : Path} {r : Resolution}
    (hresolve : session.registry.resolveTag path = .ok r) (hthrough : r.throughList = false) :
    ∃ found, context.follow? r.canonical.steps = some found ∧
      session.registry.dumpAt session.displayKey r.root (rootData r.root.key entries) r.steps
        r.endpoint = .ok found := by
  obtain ⟨-, hlookup, -, hwalk, hcrosses⟩ := Registry.resolveTag_eq_ok_iff.mp hresolve
  obtain ⟨node, hentry, hdump⟩ := named?_context h hlookup
  obtain ⟨found, hfollow, hfound⟩ := Registry.follow?_dump hbuilt hreserves r.steps
    (Registry.Knows.registered (Registry.mem_of_lookup?_eq_some hlookup).1) hwalk
    (hcrosses.symm.trans hthrough) hdump
  have htake : context.take? ⟨r.root.key, none⟩ = some node := hentry
  refine ⟨found, ?_, hfound⟩
  rw [Registry.steps_canonical, Node.follow?_cons_of_take? htake]
  exact hfollow

end Session

end TagTemplates
