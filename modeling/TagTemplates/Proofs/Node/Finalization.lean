import TagTemplates.Node.Basic
import TagTemplates.Proofs.Text.Basic

/-!
# The two finalizations of a node

A node shows its text in two ways.  `Node.text` walks the tree: a record shows its display and a
list what its items show, at every depth.  `Value.finalText` works on the plain value of the node:
it finds the display of the value itself, or of the items of a list, and prints what it finds as a
plain value, in which a record is its keys and its values.

The two agree exactly as long as no record is printed plainly.

* `Silent`: a node whose plain value prints nothing.
* `Plain`: a node whose plain value prints what the node shows, `text_eq_toValue_text_iff`.
* `Settled`: a node whose display, or whose items, are plain.
* `text_eq_finalText_iff`: with a folded display key, the finalizations agree on exactly the settled
  nodes; with another one, finalization finds no display, and what it shows is `displayless`.
-/

namespace TagTemplates

/-- Two concatenations whose first parts and whose second parts are in the same order of length are
equal only part by part. -/
theorem Text.append_eq_append_of_length_le {a b c d : String} (h : a ++ b = c ++ d)
    (ha : a.length ≤ c.length) (hb : b.length ≤ d.length) : a = c ∧ b = d := by
  have hl := congrArg String.length h
  rw [String.length_append, String.length_append] at hl
  have hc := congrArg String.toList h
  rw [String.toList_append, String.toList_append] at hc
  have hlen : a.toList.length = c.toList.length := by
    rw [String.length_toList, String.length_toList]
    omega
  obtain ⟨h1, h2⟩ := List.append_inj hc hlen
  exact ⟨String.toList_inj.mp h1, String.toList_inj.mp h2⟩

theorem Text.append_eq_empty_iff {a b : String} : a ++ b = "" ↔ a = "" ∧ b = "" := by
  rw [← String.length_eq_zero_iff, ← String.length_eq_zero_iff, ← String.length_eq_zero_iff,
    String.length_append]
  omega

namespace Node

/-! ## Trees that render through one key -/

mutual

/-- Every record of a tree renders through `displayKey` and keeps its fields under folded names. -/
def Uniform (displayKey : String) : Node → Prop
  | missing => True
  | scalar _ => True
  | list items => UniformItems displayKey items
  | record key fields => key = displayKey ∧ UniformFields displayKey fields

def UniformItems (displayKey : String) : List Node → Prop
  | [] => True
  | n :: ns => n.Uniform displayKey ∧ UniformItems displayKey ns

def UniformFields (displayKey : String) : List (String × Node) → Prop
  | [] => True
  | (k, n) :: rest => Text.fold k = k ∧ n.Uniform displayKey ∧ UniformFields displayKey rest

end

/-- Putting a field into a record keeps the tree uniform. -/
theorem UniformFields.insertField {displayKey name : String} {node : Node}
    {fields : List (String × Node)} (hnode : node.Uniform displayKey)
    (hfields : UniformFields displayKey fields) :
    UniformFields displayKey (Node.insertField name node fields) := by
  unfold Node.insertField
  induction fields with
  | nil => exact ⟨Text.fold_fold name, hnode, trivial⟩
  | cons e rest ih =>
    obtain ⟨k, n⟩ := e
    obtain ⟨hk, hn, hrest⟩ := hfields
    rw [putField]
    by_cases h : k = Text.fold name
    · rw [if_pos h]
      exact ⟨hk, hnode, hrest⟩
    · rw [if_neg h]
      exact ⟨hk, hn, ih hrest⟩

/-- Putting the fields of a record there one after another keeps the tree uniform. -/
theorem UniformFields.foldl {displayKey : String} :
    ∀ (nodes : List (String × Node)) {fields : List (String × Node)},
      (∀ e ∈ nodes, e.2.Uniform displayKey) → UniformFields displayKey fields →
      UniformFields displayKey (nodes.foldl (fun acc e => Node.insertField e.1 e.2 acc) fields)
  | [], _, _, hfields => hfields
  | e :: nodes, _, hnodes, hfields => by
    rw [List.foldl_cons]
    refine UniformFields.foldl nodes (fun e' he' => hnodes e' (List.mem_cons_of_mem _ he')) ?_
    exact UniformFields.insertField (hnodes e List.mem_cons_self) hfields

mutual

/-- Data without a schema is uniform. -/
theorem uniform_ofJson (displayKey : String) : ∀ v : Json, (ofJson displayKey v).Uniform displayKey
  | .null => trivial
  | .bool _ => trivial
  | .number _ => trivial
  | .string _ => trivial
  | .array items => by
    rw [ofJson, Uniform]
    exact uniform_ofItems displayKey items
  | .object entries => by
    rw [ofJson, ofFields, Uniform]
    exact ⟨rfl, UniformFields.foldl _ (uniform_ofEntries displayKey entries) trivial⟩

theorem uniform_ofItems (displayKey : String) :
    ∀ items : List Json, UniformItems displayKey (ofItems displayKey items)
  | [] => trivial
  | v :: vs => by
    rw [ofItems, UniformItems]
    exact ⟨uniform_ofJson displayKey v, uniform_ofItems displayKey vs⟩

theorem uniform_ofEntries (displayKey : String) : ∀ entries : List (String × Json),
    ∀ e ∈ ofEntries displayKey entries, e.2.Uniform displayKey
  | [], e, he => by
    rw [ofEntries] at he
    exact absurd he List.not_mem_nil
  | (key, v) :: rest, e, he => by
    rw [ofEntries, List.mem_cons] at he
    rcases he with rfl | he
    · exact uniform_ofJson displayKey v
    · exact uniform_ofEntries displayKey rest e he

end

/-! ## Nodes that print as they show -/

mutual

/-- The plain value of the node prints nothing: there is no text in it, and no name. -/
def Silent : Node → Prop
  | missing => True
  | scalar s => s.text = ""
  | list items => SilentItems items
  | record _ fields => SilentFields fields

def SilentItems : List Node → Prop
  | [] => True
  | n :: ns => n.Silent ∧ SilentItems ns

def SilentFields : List (String × Node) → Prop
  | [] => True
  | (k, n) :: rest => k = "" ∧ n.Silent ∧ SilentFields rest

end

mutual

/-- The plain value of the node prints what the node shows.  A record prints the names of all its
fields and shows none of them, so it has to be silent; only a display under the empty name is
printed and shown alike. -/
def Plain : Node → Prop
  | missing => True
  | scalar _ => True
  | list items => PlainItems items
  | record key fields => if Text.fold key = "" then PlainFields fields else SilentFields fields

def PlainItems : List Node → Prop
  | [] => True
  | n :: ns => n.Plain ∧ PlainItems ns

def PlainFields : List (String × Node) → Prop
  | [] => True
  | (k, n) :: rest => k = "" ∧ n.Plain ∧ SilentFields rest

end

mutual

theorem toValue_text_eq_empty_iff : ∀ n : Node, n.toValue.text = "" ↔ n.Silent
  | missing => by
    rw [toValue, Value.text, Silent]
    exact ⟨fun _ => trivial, fun _ => rfl⟩
  | scalar s => by rw [toValue, Value.text, Silent]
  | list items => by
    rw [toValue, Value.text, Silent]
    exact textOfItems_eq_empty_iff items
  | record _ fields => by
    rw [toValue, Value.text, Silent]
    exact textOfEntries_eq_empty_iff fields

theorem textOfItems_eq_empty_iff :
    ∀ items : List Node, Value.textOfItems (toValues items) = "" ↔ SilentItems items
  | [] => ⟨fun _ => trivial, fun _ => rfl⟩
  | n :: ns => by
    rw [toValues, Value.textOfItems, SilentItems, Text.append_eq_empty_iff,
      toValue_text_eq_empty_iff n, textOfItems_eq_empty_iff ns]

theorem textOfEntries_eq_empty_iff :
    ∀ fields : List (String × Node), Value.textOfEntries (toEntries fields) = "" ↔
      SilentFields fields
  | [] => ⟨fun _ => trivial, fun _ => rfl⟩
  | (k, n) :: rest => by
    rw [toEntries, Value.textOfEntries, SilentFields, Text.append_eq_empty_iff,
      Text.append_eq_empty_iff, toValue_text_eq_empty_iff n, textOfEntries_eq_empty_iff rest,
      and_assoc]

end

mutual

/-- A node never shows more than its plain value prints. -/
theorem length_text_le : ∀ n : Node, n.text.length ≤ n.toValue.text.length
  | missing => Nat.le_refl 0
  | scalar _ => Nat.le_refl _
  | list items => by
    rw [toValue, text, Value.text]
    exact length_textOfItems_le items
  | record key fields => by
    rw [toValue, text, Value.text]
    exact length_textOfField_le (Text.fold key) fields

theorem length_textOfItems_le : ∀ items : List Node,
    (textOfItems items).length ≤ (Value.textOfItems (toValues items)).length
  | [] => Nat.le_refl 0
  | n :: ns => by
    rw [toValues, textOfItems, Value.textOfItems, String.length_append, String.length_append]
    exact Nat.add_le_add (length_text_le n) (length_textOfItems_le ns)

theorem length_textOfField_le (key : String) : ∀ fields : List (String × Node),
    (textOfField key fields).length ≤ (Value.textOfEntries (toEntries fields)).length
  | [] => Nat.le_refl 0
  | (k, n) :: rest => by
    have hn := length_text_le n
    have hrest := length_textOfField_le key rest
    rw [toEntries, textOfField, Value.textOfEntries, String.length_append, String.length_append]
    split <;> omega

end

/-- A field under a name that is not empty is silent only when it is not there. -/
theorem textOfField_eq_empty {key : String} (hkey : key ≠ "") :
    ∀ {fields : List (String × Node)}, SilentFields fields → textOfField key fields = ""
  | [], _ => rfl
  | (k, n) :: rest, h => by
    obtain ⟨rfl, _, hrest⟩ := h
    rw [textOfField, if_neg (Ne.symm hkey)]
    exact textOfField_eq_empty hkey hrest

/-- A record with a display under a name prints what it shows only when it prints nothing. -/
theorem textOfField_eq_iff_of_ne {key : String} (hkey : key ≠ "") :
    ∀ fields : List (String × Node),
      textOfField key fields = Value.textOfEntries (toEntries fields) ↔ SilentFields fields
  | [] => ⟨fun _ => trivial, fun _ => rfl⟩
  | (k, n) :: rest => by
    constructor
    · intro h
      have hn := length_text_le n
      have hrest := length_textOfField_le key rest
      have hlen := congrArg String.length h
      rw [toEntries, textOfField, Value.textOfEntries, String.length_append,
        String.length_append] at hlen
      rw [← textOfEntries_eq_empty_iff, toEntries, Value.textOfEntries,
        Text.append_eq_empty_iff, Text.append_eq_empty_iff]
      by_cases hk : k = key
      · -- the display is printed with its name, which is too long
        rw [if_pos hk] at hlen
        have hzero : k.length = 0 := by omega
        exact absurd (hk ▸ String.length_eq_zero_iff.mp hzero) hkey
      · rw [if_neg hk] at hlen
        have h1 : k.length = 0 := by omega
        have h2 : n.toValue.text.length = 0 := by omega
        have h3 : textOfField key rest = Value.textOfEntries (toEntries rest) := by
          rw [toEntries, textOfField, Value.textOfEntries, if_neg hk,
            String.length_eq_zero_iff.mp h1, String.length_eq_zero_iff.mp h2] at h
          simpa using h
        have h4 := (textOfField_eq_iff_of_ne hkey rest).mp h3
        exact ⟨⟨String.length_eq_zero_iff.mp h1, String.length_eq_zero_iff.mp h2⟩,
          (textOfEntries_eq_empty_iff rest).mpr h4⟩
    · intro h
      rw [textOfField_eq_empty hkey h, (textOfEntries_eq_empty_iff _).mpr h]

mutual

/-- Exactly the plain nodes show what their plain values print. -/
theorem text_eq_toValue_text_iff : ∀ n : Node, n.text = n.toValue.text ↔ n.Plain
  | missing => ⟨fun _ => trivial, fun _ => rfl⟩
  | scalar _ => ⟨fun _ => trivial, fun _ => rfl⟩
  | list items => by
    rw [toValue, text, Value.text, Plain]
    exact textOfItems_eq_iff items
  | record key fields => by
    rw [toValue, text, Value.text, Plain]
    by_cases h : Text.fold key = ""
    · rw [if_pos h, h]
      exact textOfField_eq_iff fields
    · rw [if_neg h]
      exact textOfField_eq_iff_of_ne h fields

theorem textOfItems_eq_iff : ∀ items : List Node,
    textOfItems items = Value.textOfItems (toValues items) ↔ PlainItems items
  | [] => ⟨fun _ => trivial, fun _ => rfl⟩
  | n :: ns => by
    rw [PlainItems, ← text_eq_toValue_text_iff n, ← textOfItems_eq_iff ns, toValues, textOfItems,
      Value.textOfItems]
    constructor
    · intro h
      exact Text.append_eq_append_of_length_le h (length_text_le n) (length_textOfItems_le ns)
    · rintro ⟨h1, h2⟩
      rw [h1, h2]

theorem textOfField_eq_iff : ∀ fields : List (String × Node),
    textOfField "" fields = Value.textOfEntries (toEntries fields) ↔ PlainFields fields
  | [] => ⟨fun _ => trivial, fun _ => rfl⟩
  | (k, n) :: rest => by
    rw [PlainFields, ← text_eq_toValue_text_iff n, ← textOfEntries_eq_empty_iff rest, toEntries,
      textOfField, Value.textOfEntries]
    have hn := length_text_le n
    have hrest := length_textOfField_le "" rest
    constructor
    · intro h
      have hlen := congrArg String.length h
      rw [String.length_append, String.length_append] at hlen
      by_cases hk : k = ""
      · subst hk
        rw [if_pos rfl] at h hlen
        have h2 : (Value.textOfEntries (toEntries rest)).length = 0 := by
          have h0 : ("" : String).length = 0 := rfl
          omega
        rw [String.length_eq_zero_iff] at h2
        rw [h2] at h
        exact ⟨rfl, by simpa using h, h2⟩
      · -- the name is printed and what stands behind it is not shown
        rw [if_neg hk] at hlen
        have hzero : k.length = 0 := by omega
        exact absurd (String.length_eq_zero_iff.mp hzero) hk
    · rintro ⟨rfl, h1, h2⟩
      rw [if_pos rfl, h1, h2]
      simp

end

/-! ## The displays of a node -/

/-- The value under a key of a plain object is the plain value of the field. -/
theorem valueAt?_toEntries (key : String) (fields : List (String × Node)) :
    Value.valueAt? key (toEntries fields) = (fieldAt? key fields).map toValue := by
  induction fields with
  | nil => rfl
  | cons e rest ih =>
    obtain ⟨k, n⟩ := e
    rw [toEntries, fieldAt?]
    unfold Value.valueAt? at ih ⊢
    by_cases h : k = key
    · rw [if_pos h, List.find?_cons_of_pos (by simpa using h)]
      rfl
    · rw [if_neg h, List.find?_cons_of_neg (by simpa using h)]
      exact ih

/-- Under a key that is not folded no record keeps a field. -/
theorem fieldAt?_eq_none_of_fold_ne {displayKey key : String} (hkey : Text.fold key ≠ key) :
    ∀ {fields : List (String × Node)}, UniformFields displayKey fields → fieldAt? key fields = none
  | [], _ => rfl
  | (k, n) :: rest, h => by
    obtain ⟨hk, _, hrest⟩ := h
    have hne : k ≠ key := by
      rintro rfl
      exact hkey hk
    rw [fieldAt?, if_neg hne]
    exact fieldAt?_eq_none_of_fold_ne hkey hrest

/-- What stands for the node is plain: the display of a record, and every other node itself. -/
def DisplayPlain : Node → Prop
  | record key fields => ∀ shown, fieldAt? (Text.fold key) fields = some shown → shown.Plain
  | n => n.Plain

/-- What finalization prints of the node is plain: what stands for the items of a list, and what
stands for every other node itself. -/
def Settled : Node → Prop
  | list items => ∀ n ∈ items, n.DisplayPlain
  | n => n.DisplayPlain

/-- What a node prints where no record has a display. -/
def undisplayed : Node → String
  | record _ _ => ""
  | n => n.toValue.text

/-- What finalization shows of a node where no record has a display. -/
def displayless : Node → String
  | list items => Text.concat (items.map undisplayed)
  | n => n.undisplayed

theorem toValues_eq_map (items : List Node) : toValues items = items.map toValue := by
  induction items with
  | nil => rfl
  | cons n ns ih => rw [toValues, ih, List.map_cons]

section Folded

variable {displayKey : String}

/-- What the plain value of a record shows is its display, printed plainly. -/
theorem displayText_record (fields : List (String × Node)) :
    (record displayKey fields).toValue.displayText displayKey =
      ((fieldAt? displayKey fields).map fun shown => shown.toValue.text).getD "" := by
  rw [toValue, Value.displayText, valueAt?_toEntries]
  cases fieldAt? displayKey fields <;> rfl

/-- An item never shows more than what is printed of it. -/
theorem length_text_le_displayText (hkey : Text.fold displayKey = displayKey) {n : Node}
    (hn : n.Uniform displayKey) :
    n.text.length ≤ (n.toValue.displayText displayKey).length := by
  cases n with
  | record key fields =>
    obtain ⟨rfl, _⟩ := hn
    rw [displayText_record, text, textOfField_eq, hkey]
    cases fieldAt? key fields with
    | none => exact Nat.le_refl _
    | some shown => exact length_text_le shown
  | missing => exact Nat.le_refl _
  | scalar s => exact Nat.le_refl _
  | list items => exact length_text_le (list items)

/-- An item shows what is printed of it exactly when what stands for it is plain. -/
theorem text_eq_displayText_iff (hkey : Text.fold displayKey = displayKey) {n : Node}
    (hn : n.Uniform displayKey) :
    n.text = n.toValue.displayText displayKey ↔ n.DisplayPlain := by
  cases n with
  | record key fields =>
    obtain ⟨rfl, _⟩ := hn
    rw [displayText_record, text, textOfField_eq, DisplayPlain, hkey]
    cases fieldAt? key fields with
    | none => exact ⟨fun _ shown h => absurd h (by simp), fun _ => rfl⟩
    | some shown =>
      refine ⟨fun h other hother => ?_, fun h => (text_eq_toValue_text_iff shown).mpr (h shown rfl)⟩
      rw [← Option.some.inj hother]
      exact (text_eq_toValue_text_iff shown).mp h
  | missing => exact text_eq_toValue_text_iff missing
  | scalar s => exact text_eq_toValue_text_iff (scalar s)
  | list items => exact text_eq_toValue_text_iff (list items)

/-- A list never shows more than what is printed of its items. -/
theorem length_textOfItems_le_concat (hkey : Text.fold displayKey = displayKey) :
    ∀ {items : List Node}, UniformItems displayKey items → (textOfItems items).length ≤
      (Text.concat ((toValues items).map (Value.displayText displayKey))).length
  | [], _ => Nat.le_refl _
  | n :: ns, h => by
    rw [textOfItems, toValues, List.map_cons, Text.concat_cons, String.length_append,
      String.length_append]
    exact Nat.add_le_add (length_text_le_displayText hkey h.1)
      (length_textOfItems_le_concat hkey h.2)

/-- A list shows what is printed of its items exactly when what stands for each of them is plain. -/
theorem textOfItems_eq_concat_iff (hkey : Text.fold displayKey = displayKey) :
    ∀ {items : List Node}, UniformItems displayKey items →
      (textOfItems items = Text.concat ((toValues items).map (Value.displayText displayKey)) ↔
        ∀ n ∈ items, n.DisplayPlain)
  | [], _ => ⟨fun _ n hn => absurd hn List.not_mem_nil, fun _ => rfl⟩
  | n :: ns, h => by
    obtain ⟨hn, hns⟩ := h
    have ih := textOfItems_eq_concat_iff hkey hns
    rw [textOfItems, toValues, List.map_cons, Text.concat_cons, List.forall_mem_cons, ← ih,
      ← text_eq_displayText_iff hkey hn]
    constructor
    · intro he
      exact Text.append_eq_append_of_length_le he (length_text_le_displayText hkey hn)
        (length_textOfItems_le_concat hkey hns)
    · rintro ⟨h1, h2⟩
      rw [h1, h2]

end Folded

/-- With a key that is not folded, what the plain value of an item shows is the item without the
displays of records. -/
theorem displayText_toValue_of_fold_ne {displayKey : String}
    (hkey : Text.fold displayKey ≠ displayKey) {n : Node} (hn : n.Uniform displayKey) :
    n.toValue.displayText displayKey = n.undisplayed := by
  cases n with
  | record key fields =>
    obtain ⟨rfl, hfields⟩ := hn
    rw [displayText_record, fieldAt?_eq_none_of_fold_ne hkey hfields]
    rfl
  | missing => rfl
  | scalar s => rfl
  | list items => rfl

theorem UniformItems.forall {displayKey : String} : ∀ {items : List Node},
    UniformItems displayKey items → ∀ n ∈ items, n.Uniform displayKey
  | [], _, n, hn => absurd hn List.not_mem_nil
  | m :: ms, h, n, hn => by
    rcases List.mem_cons.mp hn with rfl | hn
    · exact h.1
    · exact UniformItems.forall h.2 n hn

theorem finalText_toValue_of_fold_ne {displayKey : String}
    (hkey : Text.fold displayKey ≠ displayKey) {n : Node} (hn : n.Uniform displayKey) :
    n.toValue.finalText displayKey = n.displayless := by
  cases n with
  | list items =>
    rw [toValue, Value.finalText, displayless, toValues_eq_map, List.map_map]
    refine congrArg Text.concat (List.map_congr_left fun m hm => ?_)
    exact displayText_toValue_of_fold_ne hkey (UniformItems.forall hn m hm)
  | record key fields => exact displayText_toValue_of_fold_ne hkey hn
  | missing => exact displayText_toValue_of_fold_ne hkey hn
  | scalar s => exact displayText_toValue_of_fold_ne hkey hn

/-- **The two finalizations agree exactly where no record is printed plainly.**  With a folded
display key these are the settled nodes.  With another one finalization finds no display at all, and
the node has to show what is left without them. -/
theorem text_eq_finalText_iff {displayKey : String} {n : Node} (hn : n.Uniform displayKey) :
    n.text = n.toValue.finalText displayKey ↔
      if Text.fold displayKey = displayKey then n.Settled else n.text = n.displayless := by
  by_cases hkey : Text.fold displayKey = displayKey
  · rw [if_pos hkey]
    cases n with
    | list items =>
      rw [toValue, text, Value.finalText, Settled]
      exact textOfItems_eq_concat_iff hkey hn
    | record key fields => exact text_eq_displayText_iff hkey hn
    | missing => exact text_eq_displayText_iff hkey hn
    | scalar s => exact text_eq_displayText_iff hkey hn
  · rw [if_neg hkey, finalText_toValue_of_fold_ne hkey hn]

/-- The displays of a list of records, one of them a list itself, are shown alike. -/
theorem text_eq_finalText_of_list_display :
    (ofJson "shown" (.array [.object [("shown", .array [.string "x", .null])],
        .string "y"])).Uniform "shown" ∧
      (ofJson "shown" (.array [.object [("shown", .array [.string "x", .null])],
          .string "y"])).text =
        (ofJson "shown" (.array [.object [("shown", .array [.string "x", .null])],
          .string "y"])).toValue.finalText "shown" := by
  refine ⟨uniform_ofJson _ _, (text_eq_finalText_iff (uniform_ofJson _ _)).mpr ?_⟩
  rw [if_pos (by decide)]
  simp [ofJson, ofItems, ofEntries, ofFields, insertField, putField, Settled, DisplayPlain,
    fieldAt?, Plain, PlainItems]

/-- A record in a list in a list shows its display and is printed with its keys. -/
theorem text_ne_finalText_of_nested_list :
    (list [list [record "_default_template" [("_default_template", ofText "x")]]]).text ≠
      (list [list [record "_default_template"
        [("_default_template", ofText "x")]]]).toValue.finalText "_default_template" := by
  decide

end Node

end TagTemplates
