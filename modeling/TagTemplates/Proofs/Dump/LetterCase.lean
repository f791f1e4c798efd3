import Mathlib.Data.Option.Basic
import TagTemplates.Proofs.Dump.Faithful
import TagTemplates.Proofs.Registry.Known

/-!
# The case of letters in the keys of data

Where no object has two keys that are equal up to case, the keys of data may be written in any case,
which may change their order too: what data are dumped to stays the same, as far as anyone can tell
who looks fields up.

* `Json.keysApart`: no object has two keys that are equal up to case.
* `Json.Recased`: the same data with keys in another case.
* `Node.Alike`: nodes that cannot be told apart by looking fields up.
* `lookupName_of_recased`: what is found for a name.
* `ofJson_alike`, `Registry.dump_alike`: what data are turned into, without a schema and with one.
-/

namespace TagTemplates

namespace Json

/-- The keys of an object, folded. -/
def foldedKeys (entries : List (String × Json)) : List String := entries.map fun e => Text.fold e.1

mutual

/-- No object in the data has two keys that are equal up to case. -/
def keysApart : Json → Bool
  | array items => itemsApart items
  | object entries => decide (foldedKeys entries).Nodup && entriesApart entries
  | _ => true

def itemsApart : List Json → Bool
  | [] => true
  | v :: vs => keysApart v && itemsApart vs

def entriesApart : List (String × Json) → Bool
  | [] => true
  | (_, v) :: rest => keysApart v && entriesApart rest

end

/-- The same data with the keys of objects written in another case, and the entries in another
order. -/
inductive Recased : Json → Json → Prop where
  | null : Recased null null
  | bool (value : Bool) : Recased (bool value) (bool value)
  | number (value : Number) : Recased (number value) (number value)
  | string (value : String) : Recased (string value) (string value)
  | array {items others : List Json} : List.Forall₂ Recased items others →
      Recased (array items) (array others)
  | object {entries renamed others : List (String × Json)} :
      foldedKeys entries = foldedKeys renamed →
      List.Forall₂ Recased (entries.map Prod.snd) (renamed.map Prod.snd) →
      renamed.Perm others → Recased (object entries) (object others)

end Json

namespace Node

/-- The nodes show the same to anyone who looks up fields and items. -/
inductive Alike : Node → Node → Prop where
  | missing : Alike missing missing
  | scalar (value : Scalar) : Alike (scalar value) (scalar value)
  | list {items others : List Node} : List.Forall₂ Alike items others →
      Alike (list items) (list others)
  | record {displayKey : String} {fields others : List (String × Node)} :
      (∀ key, Option.Rel Alike (fieldAt? key fields) (fieldAt? key others)) →
      Alike (record displayKey fields) (record displayKey others)

/-- Under every key there are nodes that are alike, or none. -/
def SameFields (fields others : List (String × Node)) : Prop :=
  ∀ key, Option.Rel Alike (fieldAt? key fields) (fieldAt? key others)

end Node

/-! ## Renamed entries -/

namespace Json

/-- The entries have the same key up to case, and the same data under it. -/
def RecasedEntry (e e' : String × Json) : Prop := Text.fold e.1 = Text.fold e'.1 ∧ Recased e.2 e'.2

theorem forall₂_recasedEntry : ∀ {entries renamed : List (String × Json)},
    foldedKeys entries = foldedKeys renamed →
    List.Forall₂ Recased (entries.map Prod.snd) (renamed.map Prod.snd) →
    List.Forall₂ RecasedEntry entries renamed
  | [], [], _, _ => .nil
  | [], _ :: _, hkeys, _ => nomatch hkeys
  | _ :: _, [], hkeys, _ => nomatch hkeys
  | e :: entries, e' :: renamed, hkeys, hvalues => by
    obtain ⟨hkey, hrest⟩ := List.cons.inj hkeys
    obtain ⟨hvalue, hmore⟩ := List.forall₂_cons.mp hvalues
    exact .cons ⟨hkey, hvalue⟩ (forall₂_recasedEntry hrest hmore)

theorem keysApart_of_mem_items : ∀ {items : List Json} {item : Json}, itemsApart items = true →
    item ∈ items → item.keysApart = true
  | v :: vs, item, h, hmem => by
    rw [itemsApart, Bool.and_eq_true] at h
    rcases List.mem_cons.mp hmem with rfl | hmem
    · exact h.1
    · exact keysApart_of_mem_items h.2 hmem

theorem keysApart_of_mem_entries : ∀ {entries : List (String × Json)} {e : String × Json},
    entriesApart entries = true → e ∈ entries → e.2.keysApart = true
  | (_, v) :: rest, e, h, hmem => by
    rw [entriesApart, Bool.and_eq_true] at h
    rcases List.mem_cons.mp hmem with rfl | hmem
    · exact h.1
    · exact keysApart_of_mem_entries h.2 hmem

theorem keysApart_object_iff {entries : List (String × Json)} :
    (object entries).keysApart = true ↔
      (foldedKeys entries).Nodup ∧ entriesApart entries = true := by
  rw [keysApart, Bool.and_eq_true, decide_eq_true_eq]

/-! ## What is found for a name -/

variable {entries others : List (String × Json)} {name : String} {v : Json}

/-- What is found for a name stands under the name, up to case. -/
theorem exists_mem_of_lookupName (h : lookupName name entries = some v) :
    ∃ key, (key, v) ∈ entries ∧ Text.fold key = Text.fold name := by
  rw [lookupName] at h
  cases hexact : lookup name entries with
  | some w =>
    obtain rfl : w = v := by simpa [hexact] using h
    obtain ⟨e, hfound, rfl⟩ := Option.map_eq_some_iff.mp hexact
    have hkey := List.find?_some hfound
    exact ⟨e.1, List.mem_of_find?_eq_some hfound, congrArg Text.fold (beq_iff_eq.mp hkey)⟩
  | none =>
    simp only [hexact] at h
    obtain ⟨e, hfound, rfl⟩ := Option.map_eq_some_iff.mp h
    have hkey := List.find?_some hfound
    exact ⟨e.1, List.mem_of_find?_eq_some hfound, Text.sameName_iff.mp hkey⟩

/-- Something is found for the name of an entry. -/
theorem lookupName_ne_none {key : String} (hmem : (key, v) ∈ entries)
    (hkey : Text.fold key = Text.fold name) : lookupName name entries ≠ none := by
  intro h
  rw [lookupName] at h
  cases hexact : lookup name entries with
  | some w =>
    rw [hexact] at h
    exact nomatch h
  | none =>
    simp only [hexact, Option.map_eq_none_iff, List.find?_eq_none] at h
    exact h (key, v) hmem (Text.sameName_iff.mpr hkey)

/-- Among keys that differ up to case, a name finds the entry that stands under it. -/
theorem lookupName_eq_some_iff (h : (foldedKeys entries).Nodup) :
    lookupName name entries = some v ↔
      ∃ key, (key, v) ∈ entries ∧ Text.fold key = Text.fold name := by
  refine ⟨exists_mem_of_lookupName, ?_⟩
  rintro ⟨key, hmem, hkey⟩
  cases hfound : lookupName name entries with
  | none => exact absurd hfound (lookupName_ne_none hmem hkey)
  | some w =>
    obtain ⟨key', hmem', hkey'⟩ := exists_mem_of_lookupName hfound
    have hsame := List.inj_on_of_nodup_map h hmem' hmem (hkey'.trans hkey.symm)
    rw [(Prod.mk.inj hsame).2]

/-- Such entries may come in any order. -/
theorem lookupName_of_perm (h : (foldedKeys entries).Nodup) (hperm : entries.Perm others)
    (name : String) : lookupName name entries = lookupName name others := by
  have hothers : (foldedKeys others).Nodup := (hperm.map _).nodup_iff.mp h
  refine Option.ext fun v => ?_
  rw [lookupName_eq_some_iff h, lookupName_eq_some_iff hothers]
  simp only [hperm.mem_iff]

/-- **A name finds the same data in recased objects**, or nothing in both. -/
theorem lookupName_of_recased (hapart : (foldedKeys entries).Nodup)
    (h : Recased (object entries) (object others)) (name : String) :
    Option.Rel Recased (lookupName name entries) (lookupName name others) := by
  cases h with
  | @object _ renamed _ hkeys hvalues hperm =>
    have hrenamed : (foldedKeys renamed).Nodup := hkeys ▸ hapart
    have hall := forall₂_recasedEntry hkeys hvalues
    rw [← lookupName_of_perm hrenamed hperm]
    cases hfound : lookupName name entries with
    | some v =>
      obtain ⟨key, hmem, hkey⟩ := exists_mem_of_lookupName hfound
      obtain ⟨⟨key', w⟩, hmem', hkeys', hrecased⟩ := exists_mem_of_forall₂ hall hmem
      rw [(lookupName_eq_some_iff hrenamed).mpr ⟨key', hmem', hkeys'.symm.trans hkey⟩]
      exact .some hrecased
    | none =>
      cases hother : lookupName name renamed with
      | none => exact .none
      | some w =>
        obtain ⟨key', hmem', hkey'⟩ := exists_mem_of_lookupName hother
        obtain ⟨⟨key, v⟩, hmem, hkeys', -⟩ := exists_mem_of_forall₂ hall.flip hmem'
        exact absurd hfound (lookupName_ne_none hmem (hkeys'.trans hkey'))

end Json

/-! ## Fields -/

namespace Node

variable {fields others : List (String × Node)} {key : String} {n m : Node}

theorem SameFields.putField (h : SameFields fields others) (hnode : n.Alike m) :
    SameFields (putField key n fields) (putField key m others) := by
  intro other
  by_cases hother : other = key
  · subst hother
    rw [fieldAt?_putField_self, fieldAt?_putField_self]
    exact .some hnode
  · rw [fieldAt?_putField_of_ne hother, fieldAt?_putField_of_ne hother]
    exact h other

/-- The nodes come with the same name up to case, and are alike. -/
def AlikeField (e e' : String × Node) : Prop := Text.fold e.1 = Text.fold e'.1 ∧ e.2.Alike e'.2

theorem SameFields.insertFields {nodes nodes' : List (String × Node)}
    (hnodes : List.Forall₂ AlikeField nodes nodes') (h : SameFields fields others) :
    SameFields (insertFields nodes fields) (insertFields nodes' others) := by
  induction hnodes generalizing fields others with
  | nil => exact h
  | @cons e e' nodes nodes' hfield _ ih =>
    obtain ⟨hname, hnode⟩ := hfield
    rw [insertFields_cons, insertFields_cons, insertField, insertField, hname]
    exact ih (h.putField hnode)

theorem sameFields_nil : SameFields [] [] := fun _ => .none

/-- The display is copied alike. -/
theorem SameFields.aliasDisplay (h : SameFields fields others) (displayKey : String)
    (display : Option String) :
    SameFields (aliasDisplay displayKey display fields)
      (aliasDisplay displayKey display others) := by
  cases display with
  | none => exact h
  | some name =>
    rw [TagTemplates.aliasDisplay, TagTemplates.aliasDisplay]
    by_cases hsame : Text.sameName name displayKey = true
    · rw [if_pos hsame, if_pos hsame]
      exact h
    · rw [if_neg hsame, if_neg hsame]
      have hfound := h (Text.fold name)
      generalize fieldAt? (Text.fold name) fields = found at hfound ⊢
      generalize fieldAt? (Text.fold name) others = found' at hfound ⊢
      cases hfound with
      | none => exact h
      | some hnode => exact h.putField hnode

/-- Nodes with different names may be put into a record in any order. -/
theorem fieldAt?_insertFields_of_perm {nodes nodes' : List (String × Node)}
    (h : (keys nodes).Nodup) (hperm : nodes.Perm nodes') (fields : List (String × Node))
    (key : String) :
    fieldAt? key (insertFields nodes fields) = fieldAt? key (insertFields nodes' fields) := by
  have hkeys : (keys nodes).Perm (keys nodes') := hperm.map _
  by_cases hkey : key ∈ keys nodes
  · obtain ⟨⟨name, node⟩, hmem, rfl⟩ := List.mem_map.mp hkey
    rw [fieldAt?_insertFields_of_mem h hmem,
      fieldAt?_insertFields_of_mem (hkeys.nodup_iff.mp h) (hperm.mem_iff.mp hmem)]
  · rw [fieldAt?_insertFields_of_notMem hkey,
      fieldAt?_insertFields_of_notMem fun hmem => hkey (hkeys.mem_iff.mpr hmem)]

/-! ## Data without a schema -/

theorem ofItems_eq_map (displayKey : String) (items : List Json) :
    ofItems displayKey items = items.map (ofJson displayKey) := by
  induction items with
  | nil => rfl
  | cons v vs ih => rw [ofItems, ih, List.map_cons]

theorem ofEntries_eq_map (displayKey : String) (entries : List (String × Json)) :
    ofEntries displayKey entries = entries.map fun e => (e.1, ofJson displayKey e.2) := by
  induction entries with
  | nil => rfl
  | cons e rest ih => rw [ofEntries, ih, List.map_cons]

theorem keys_ofEntries (displayKey : String) (entries : List (String × Json)) :
    keys (ofEntries displayKey entries) = Json.foldedKeys entries := by
  rw [ofEntries_eq_map, keys, List.map_map]
  rfl

mutual

/-- **Recased data without a schema are turned into nodes that are alike.** -/
theorem ofJson_alike (displayKey : String) : ∀ {v w : Json}, v.keysApart = true → v.Recased w →
    (ofJson displayKey v).Alike (ofJson displayKey w)
  | .null, _, _, .null => .missing
  | .bool b, _, _, .bool _ => .scalar (.bool b)
  | .number x, _, _, .number _ => .scalar (.ofNumber x)
  | .string s, _, _, .string _ => .scalar (.string s)
  | .array items, _, hapart, .array hitems => by
    rw [ofJson, ofJson]
    exact .list (ofItems_alike displayKey hapart hitems)
  | .object entries, _, hapart, @Json.Recased.object _ renamed _ hkeys hvalues hperm => by
    obtain ⟨hnodup, hentries⟩ := Json.keysApart_object_iff.mp hapart
    have hrenamed : (keys (ofEntries displayKey renamed)).Nodup := by
      rw [keys_ofEntries, ← hkeys]
      exact hnodup
    have hperm' := hperm.map fun e => (e.1, ofJson displayKey e.2)
    rw [← ofEntries_eq_map, ← ofEntries_eq_map] at hperm'
    have hfields := sameFields_nil.insertFields (ofEntries_alike displayKey hentries hkeys hvalues)
    rw [ofJson, ofJson, ofFields, ofFields]
    refine .record fun key => ?_
    have hothers := fieldAt?_insertFields_of_perm hrenamed hperm' [] key
    exact hothers ▸ hfields key

theorem ofItems_alike (displayKey : String) : ∀ {items others : List Json},
    Json.itemsApart items = true → List.Forall₂ Json.Recased items others →
      List.Forall₂ Alike (ofItems displayKey items) (ofItems displayKey others)
  | [], _, _, .nil => .nil
  | v :: vs, _, hapart, .cons hv hvs => by
    rw [Json.itemsApart, Bool.and_eq_true] at hapart
    exact .cons (ofJson_alike displayKey hapart.1 hv) (ofItems_alike displayKey hapart.2 hvs)

theorem ofEntries_alike (displayKey : String) : ∀ {entries renamed : List (String × Json)},
    Json.entriesApart entries = true → Json.foldedKeys entries = Json.foldedKeys renamed →
      List.Forall₂ Json.Recased (entries.map Prod.snd) (renamed.map Prod.snd) →
      List.Forall₂ AlikeField (ofEntries displayKey entries) (ofEntries displayKey renamed)
  | [], [], _, _, _ => .nil
  | [], _ :: _, _, hkeys, _ => nomatch hkeys
  | _ :: _, [], _, hkeys, _ => nomatch hkeys
  | (key, v) :: rest, (key', w) :: rest', hapart, hkeys, hvalues => by
    rw [Json.entriesApart, Bool.and_eq_true] at hapart
    obtain ⟨hkey, hrest⟩ := List.cons.inj hkeys
    obtain ⟨hvalue, hmore⟩ := List.forall₂_cons.mp hvalues
    exact .cons ⟨hkey, ofJson_alike displayKey hapart.1 hvalue⟩
      (ofEntries_alike displayKey hapart.2 hrest hmore)

end

end Node

/-! ## Fields of a schema -/

/-- What a nested field takes without a registered schema. -/
theorem Field.rawNode_alike (field : Field) (displayKey : String) {v w : Json}
    (hapart : v.keysApart = true) (h : v.Recased w) :
    (field.rawNode displayKey v).Alike (field.rawNode displayKey w) := by
  unfold Field.rawNode
  by_cases hmany : field.kind.isMany = true
  · rw [if_pos hmany, if_pos hmany]
    cases h with
    | array hitems =>
      have halike := Node.ofItems_alike displayKey hapart hitems
      rw [Node.ofItems_eq_map, Node.ofItems_eq_map] at halike
      exact .list halike
    | _ => exact .missing
  · rw [if_neg hmany, if_neg hmany]
    exact Node.ofJson_alike displayKey hapart h

namespace Json

variable {entries others : List (String × Json)}

/-- What an object holds for a name is smaller than the object. -/
theorem sizeOf_entryOf_lt (name : String) (entries : List (String × Json)) :
    sizeOf ((object entries).entryOf name) < sizeOf (object entries) := by
  simp only [entryOf]
  cases hfound : lookupName name entries with
  | none =>
    have hpos : 1 ≤ sizeOf entries := by
      cases entries with
      | nil => simp
      | cons e rest =>
        rw [List.cons.sizeOf_spec]
        omega
    rw [Option.getD_none, null.sizeOf_spec, object.sizeOf_spec]
    omega
  | some v => exact sizeOf_lookupName_lt hfound

theorem keysApart_entryOf (h : (object entries).keysApart = true) (name : String) :
    ((object entries).entryOf name).keysApart = true := by
  simp only [entryOf]
  cases hfound : lookupName name entries with
  | none => rfl
  | some v =>
    obtain ⟨key, hmem, -⟩ := exists_mem_of_lookupName hfound
    exact keysApart_of_mem_entries (keysApart_object_iff.mp h).2 hmem

theorem entryOf_recased (hapart : (object entries).keysApart = true)
    (h : Recased (object entries) (object others)) (name : String) :
    Recased ((object entries).entryOf name) ((object others).entryOf name) := by
  have hfound := lookupName_of_recased (keysApart_object_iff.mp hapart).1 h name
  simp only [entryOf]
  generalize lookupName name entries = found at hfound ⊢
  generalize lookupName name others = found' at hfound ⊢
  cases hfound with
  | none => exact .null
  | some hrecased => exact hrecased

end Json

/-! ## Dumps -/

/-- No field is rendered from a text. -/
def Schema.Plain (schema : Schema) : Prop := ∀ field ∈ schema.fields, field.kind.isTemplate = false

theorem renderFields_of_plain [Liquid.Library] {displayKey : String} {record : Node} :
    ∀ {fields : List Field}, (∀ field ∈ fields, field.kind.isTemplate = false) →
      renderFields displayKey record fields = .ok []
  | [], _ => rfl
  | field :: rest, h => by
    obtain ⟨hfield, hrest⟩ := List.forall_mem_cons.mp h
    rw [renderFields]
    cases hkind : field.kind with
    | template text tags => exact absurd (hkind ▸ hfield) (by simp [FieldKind.isTemplate])
    | _ => exact renderFields_of_plain hrest

/-- Both attempts succeed, and their nodes are alike. -/
def AlikeNodes (r r' : Except TemplateError Node) : Prop :=
  ∃ n m, r = .ok n ∧ r' = .ok m ∧ n.Alike m

namespace Registry

variable {registry : Registry} {displayKey : String} {schema : Schema}

/-- No schema that a dump can meet has template fields: not the schema itself, nor a registered one,
nor one that these hold. -/
def TemplateFree (registry : Registry) (schema : Schema) : Prop :=
  ∀ met, (⟨schema :: registry.schemas⟩ : Registry).Knows met → met.Plain

/-- Where no known schema has template fields, a dump through a known schema meets none. -/
theorem TemplateFree.of_knows (hschema : registry.Knows schema)
    (hplain : ∀ met, registry.Knows met → met.Plain) : registry.TemplateFree schema := by
  intro met hmet
  refine hplain met (hmet.of_registered fun s hs => ?_)
  rcases List.mem_cons.mp hs with rfl | hs
  · exact hschema
  · exact .registered hs

theorem TemplateFree.plain (h : registry.TemplateFree schema) : schema.Plain :=
  h schema (.registered List.mem_cons_self)

/-- The schema behind a nested field is as free of templates. -/
theorem TemplateFree.target {target : Schema} {field : Field} (h : registry.TemplateFree schema)
    (hfield : field ∈ schema.fields) (htarget : registry.target schema field = .ok target) :
    registry.TemplateFree target := by
  have hknown : (⟨schema :: registry.schemas⟩ : Registry).Knows target := by
    rcases target_eq_ok htarget with hdirect | rfl | hmem
    · exact .held (.registered List.mem_cons_self) hfield hdirect
    · exact .registered List.mem_cons_self
    · exact .registered (List.mem_cons_of_mem _ hmem)
  intro met hmet
  refine h met (hmet.of_registered fun s hs => ?_)
  rcases List.mem_cons.mp hs with rfl | hs
  · exact hknown
  · exact .registered (List.mem_cons_of_mem _ hs)

variable [Liquid.Library]

/-- The data are dumped alike through every schema without templates. -/
def DumpsAlike (registry : Registry) (displayKey : String) (v w : Json) : Prop :=
  ∀ schema, registry.TemplateFree schema →
    AlikeNodes (registry.dump displayKey schema v) (registry.dump displayKey schema w)

/-- What a nested field holds is dumped alike when all data of its size are. -/
theorem dumpBehind_alike {target : Schema} {v w : Json}
    (ih : ∀ u, sizeOf u ≤ sizeOf v → ∀ u', u.keysApart = true → u.Recased u' →
      registry.DumpsAlike displayKey u u')
    (htarget : registry.TemplateFree target) (hapart : v.keysApart = true) (h : v.Recased w)
    (field : Field) :
    AlikeNodes (registry.dumpBehind displayKey field target v)
      (registry.dumpBehind displayKey field target w) := by
  rw [dumpBehind, dumpBehind]
  by_cases hmany : field.kind.isMany = true
  · rw [if_pos hmany, if_pos hmany]
    cases h with
    | @array items others hitems =>
      have hitem : ∀ item ∈ items,
          sizeOf item ≤ sizeOf (Json.array items) ∧ item.keysApart = true :=
        fun item hmem => ⟨Nat.le_of_lt (Json.sizeOf_item_lt hmem),
          Json.keysApart_of_mem_items hapart hmem⟩
      have hall := (List.forall₂_and_left items others).mpr ⟨hitem, hitems⟩
      obtain ⟨ns, ms, hns, hms, halike⟩ := mapM_forall₂ (R := Node.Alike) <|
        hall.imp fun item other hboth => ih item hboth.1.1 other hboth.1.2 hboth.2 target htarget
      exact ⟨.list ns, .list ms, bind_eq_ok_iff.mpr ⟨ns, hns, rfl⟩,
        bind_eq_ok_iff.mpr ⟨ms, hms, rfl⟩, .list halike⟩
    | _ => exact ⟨.missing, .missing, rfl, rfl, .missing⟩
  · rw [if_neg hmany, if_neg hmany]
    exact ih v (Nat.le_refl _) w hapart h target htarget

/-- A field is dumped alike when all smaller data are. -/
theorem dumpField_alike {entries others : List (String × Json)}
    (ih : ∀ u, sizeOf u < sizeOf (Json.object entries) → ∀ u', u.keysApart = true → u.Recased u' →
      registry.DumpsAlike displayKey u u')
    (hfree : registry.TemplateFree schema) (hapart : (Json.object entries).keysApart = true)
    (h : (Json.object entries).Recased (.object others)) {field : Field}
    (hfield : field ∈ schema.fields) :
    ∃ n m, registry.dumpField displayKey schema entries field = .ok (some (field.name, n)) ∧
      registry.dumpField displayKey schema others field = .ok (some (field.name, m)) ∧
      n.Alike m := by
  have hentry := Json.entryOf_recased hapart h field.name
  have hentryApart := Json.keysApart_entryOf hapart field.name
  by_cases hterminal : field.kind.isTerminal = true
  · rcases FieldKind.eq_terminal hterminal with hkind | ⟨text, tags, hkind⟩
    · exact ⟨_, _, dumpField_scalar hkind, dumpField_scalar hkind,
        Node.ofJson_alike displayKey hentryApart hentry⟩
    · exact absurd (hkind ▸ hfree.plain field hfield) (by simp [FieldKind.isTemplate])
  · rw [Bool.not_eq_true] at hterminal
    cases htarget : registry.target schema field with
    | error e =>
      exact ⟨_, _, dumpField_raw hterminal htarget, dumpField_raw hterminal htarget,
        field.rawNode_alike displayKey hentryApart hentry⟩
    | ok target =>
      obtain ⟨n, m, hn, hm, halike⟩ := dumpBehind_alike
        (fun u hu => ih u (Nat.lt_of_le_of_lt hu (Json.sizeOf_entryOf_lt field.name entries)))
        (hfree.target hfield htarget) hentryApart hentry field
      refine ⟨n, m, ?_, ?_, halike⟩
      · rw [dumpField_nested hterminal htarget, hn]
        rfl
      · rw [dumpField_nested hterminal htarget, hm]
        rfl

/-- Without templates an object is dumped to its plain record with a copy of the display. -/
theorem dump_object_of_plain {entries : List (String × Json)} (hplain : schema.Plain)
    {nodes : List (Option (String × Node))}
    (hnodes : schema.fields.mapM (registry.dumpField displayKey schema entries) = .ok nodes) :
    registry.dump displayKey schema (.object entries) =
      .ok (.record displayKey (aliasDisplay displayKey schema.display
        (Node.insertFields (nodes.filterMap id) []))) := by
  rw [dump, hnodes]
  show finishRecord displayKey schema (nodes.filterMap id) = _
  rw [finishRecord, renderFields_of_plain hplain]
  rfl

/-- **Data with keys in another case are dumped alike.**  By induction on the size of the data. -/
theorem dump_alike {v w : Json} (hfree : registry.TemplateFree schema) (hapart : v.keysApart = true)
    (h : v.Recased w) :
    AlikeNodes (registry.dump displayKey schema v) (registry.dump displayKey schema w) := by
  induction hn : sizeOf v using Nat.strongRecOn generalizing v w schema with
  | _ n ih =>
    subst hn
    cases h with
    | @object entries renamed others hkeys hvalues hperm =>
      have hrecased := Json.Recased.object hkeys hvalues hperm
      have hsmaller : ∀ u, sizeOf u < sizeOf (Json.object entries) → ∀ u', u.keysApart = true →
          u.Recased u' → registry.DumpsAlike displayKey u u' :=
        fun u hu u' hu' hr target htarget => ih _ hu htarget hu' hr rfl
      have hfields : ∀ field ∈ schema.fields, ∃ r r',
          registry.dumpField displayKey schema entries field = .ok r ∧
            registry.dumpField displayKey schema others field = .ok r' ∧
            Option.Rel Node.AlikeField r r' := by
        intro field hfield
        obtain ⟨n, m, hn, hm, halike⟩ := dumpField_alike hsmaller hfree hapart hrecased hfield
        exact ⟨_, _, hn, hm, .some ⟨rfl, halike⟩⟩
      obtain ⟨nodes, nodes', hnodes, hnodes', hall⟩ := mapM_forall₂ (List.forall₂_same.mpr hfields)
      have hnamed : List.Forall₂ Node.AlikeField (nodes.filterMap id) (nodes'.filterMap id) :=
        List.rel_filterMap (fun _ _ hresult => hresult) hall
      have hplain := Node.sameFields_nil.insertFields hnamed
      exact ⟨_, _, dump_object_of_plain hfree.plain hnodes,
        dump_object_of_plain hfree.plain hnodes',
        .record (hplain.aliasDisplay displayKey schema.display)⟩
    | _ => exact ⟨.missing, .missing, dump_of_ne_object rfl, dump_of_ne_object rfl, .missing⟩

end Registry

end TagTemplates
