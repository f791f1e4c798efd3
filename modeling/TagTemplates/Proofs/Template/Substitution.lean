import Mathlib.Data.List.Induction
import TagTemplates.Proofs.Entries
import TagTemplates.Proofs.Text.Basic
import TagTemplates.Template.SubTemplates

/-!
# Sub-templates at once

Sub-templates are put in place one after another, and what one of them leaves behind is text for the
next.  On flat text, where no two opening braces meet before a closing one, nothing comes of that:
names and texts without braces neither make a marker nor take one apart, so all markers may be
replaced in one pass, and the order of the sub-templates does not matter.

* `Braceless`, `Flat`: the texts that this is about, with `Laid` for a flat text as its pieces.
* `substitute`: all markers in one pass, with an equation for each way a text may begin.
* `replaceAll_marker`: replacing one marker is a pass for one name.
* `substitute_substitute`: a pass after a pass is one pass, on flat text.
* `apply_eq_substitute`: sub-templates are put in place as if at once.
* `apply_of_perm`: the order in which they are given does not matter.
-/

namespace TagTemplates

namespace SubTemplates

/-- A text without braces. -/
def Braceless (text : List Char) : Prop := '{' ∉ text ∧ '}' ∉ text

instance (text : List Char) : Decidable (Braceless text) :=
  inferInstanceAs (Decidable ('{' ∉ text ∧ '}' ∉ text))

/-- Between an opening brace and the next closing one stands no other opening brace. -/
def Flat (text : List Char) : Prop :=
  ∀ before inner after, text = before ++ '{' :: (inner ++ '}' :: after) → '}' ∉ inner → '{' ∉ inner

/-! ## The pieces of flat text -/

/-- How flat text is laid out: other characters, texts in braces, and at last perhaps a brace that
is never closed. -/
inductive Laid : List Char → Prop where
  | nil : Laid []
  | char {c : Char} {rest : List Char} : c ≠ '{' → Laid rest → Laid (c :: rest)
  | unclosed {rest : List Char} : '}' ∉ rest → Laid ('{' :: rest)
  | braced {inner rest : List Char} : Braceless inner → Laid rest →
      Laid ('{' :: (inner ++ '}' :: rest))

/-- An end of a flat text is flat. -/
theorem Flat.of_append {front rest : List Char} (h : Flat (front ++ rest)) : Flat rest := by
  intro before inner after htext
  refine h (front ++ before) inner after ?_
  rw [htext, List.append_assoc]

theorem Flat.laid : ∀ {text : List Char}, Flat text → Laid text
  | [], _ => .nil
  | c :: rest, h => by
    have hrest : Flat rest := @Flat.of_append [c] rest h
    by_cases hc : c = '{'
    · subst hc
      by_cases hclose : '}' ∈ rest
      · obtain ⟨inner, after, hcut, hinner⟩ := List.eq_append_cons_of_mem hclose
        have hopen : '{' ∉ inner := h [] inner after (congrArg _ hcut) hinner
        have hafter : Flat after := by
          refine @Flat.of_append (inner ++ ['}']) after ?_
          rwa [List.append_assoc, List.singleton_append, ← hcut]
        have hlength : after.length < rest.length := by
          rw [hcut, List.length_append, List.length_cons]
          omega
        rw [hcut]
        exact .braced ⟨hopen, hinner⟩ hafter.laid
      · exact .unclosed hclose
    · exact .char hc hrest.laid
termination_by text => text.length
decreasing_by
  · rw [List.length_cons]
    omega
  · simp

/-- Text up to the first closing brace is the same however the text is cut there. -/
theorem inner_eq_of_append_eq {inner other after rest : List Char} (hinner : '}' ∉ inner)
    (hother : '}' ∉ other) (h : inner ++ '}' :: after = other ++ '}' :: rest) : inner = other := by
  have hcut := Text.cutAt?_append hinner after
  rw [h, Text.cutAt?_append hother rest] at hcut
  exact (Prod.mk.inj (Option.some.inj hcut)).1.symm

theorem Laid.flat {text : List Char} (h : Laid text) : Flat text := by
  induction h with
  | nil =>
    intro before inner after htext
    exact absurd htext (by simp)
  | @char c rest hc _ ih =>
    intro before inner after htext
    cases before with
    | nil => exact absurd (List.cons.inj htext).1 hc
    | cons b before => exact ih before inner after (List.cons.inj htext).2
  | @unclosed rest hrest =>
    intro before inner after htext
    have hmem : '}' ∈ '{' :: rest := by
      rw [htext]
      simp
    rcases List.mem_cons.mp hmem with heq | hmem
    · exact absurd heq (by decide)
    · exact absurd hmem hrest
  | @braced name rest hname _ ih =>
    intro before inner after htext hinner
    cases before with
    | nil =>
      rw [← inner_eq_of_append_eq hname.2 hinner (List.cons.inj htext).2]
      exact hname.1
    | cons b before =>
      -- the next opening brace stands behind the one that closes the name
      rcases List.append_eq_append_iff.mp (List.cons.inj htext).2 with
        ⟨gap, rfl, hgap⟩ | ⟨gap, rfl, hgap⟩
      · cases gap with
        | nil => exact absurd (List.cons.inj hgap).1 (by decide)
        | cons d gap =>
          obtain ⟨rfl, hrest⟩ := List.cons.inj hgap
          exact ih gap inner after hrest hinner
      · cases gap with
        | nil => exact absurd (List.cons.inj hgap).1 (by decide)
        | cons d gap =>
          obtain ⟨rfl, -⟩ := List.cons.inj hgap
          exact absurd (List.mem_append_right before List.mem_cons_self) hname.1

/-- Text without opening braces may stand in front. -/
theorem Laid.append_of_notMem {rest : List Char} (h : Laid rest) :
    ∀ {front : List Char}, '{' ∉ front → Laid (front ++ rest)
  | [], _ => h
  | c :: front, hfront => by
    obtain ⟨hc, hfront⟩ := not_or.mp fun hor => hfront (List.mem_cons.mpr hor)
    exact .char (fun heq => hc heq.symm) (h.append_of_notMem hfront)

/-! ## One pass -/

/-- The text for the name that stands in front of the next closing brace, and what follows the
brace. -/
def textBehind? (textOf : String → Option String) (cs : List Char) :
    Option (String × List Char) :=
  match Text.cutAt? '}' cs with
  | some (name, after) => (textOf (String.ofList name)).map (·, after)
  | none => none

theorem length_lt_of_textBehind? {textOf : String → Option String} {cs after : List Char}
    {text : String} (h : textBehind? textOf cs = some (text, after)) :
    after.length < cs.length := by
  unfold textBehind? at h
  split at h
  · rename_i name rest hcut
    obtain ⟨found, -, hfound⟩ := Option.map_eq_some_iff.mp h
    obtain ⟨-, rfl⟩ := Prod.mk.inj hfound
    obtain ⟨rfl, -⟩ := Text.eq_append_of_cutAt? hcut
    rw [List.length_append, List.length_cons]
    omega
  · exact absurd h (by simp)

set_option linter.unusedVariables false in
/-- Put in place of every marker the text of its name, if it has one, in one pass from left to
right; everything else stays. -/
def substitute (textOf : String → Option String) : List Char → List Char
  | [] => []
  | c :: cs =>
    if c = '{' then
      match h : textBehind? textOf cs with
      | some (text, after) => text.toList ++ substitute textOf after
      | none => c :: substitute textOf cs
    else c :: substitute textOf cs
termination_by cs => cs.length
decreasing_by
  · have := length_lt_of_textBehind? h
    simp only [List.length_cons]
    omega
  · simp
  · simp

section

variable {textOf : String → Option String} {c : Char} {cs rest : List Char} {name text : String}

theorem substitute_of_ne (hc : c ≠ '{') (cs : List Char) :
    substitute textOf (c :: cs) = c :: substitute textOf cs := by
  rw [substitute, if_neg hc]

theorem substitute_of_textBehind?_eq_none (h : textBehind? textOf cs = none) :
    substitute textOf ('{' :: cs) = '{' :: substitute textOf cs := by
  rw [substitute, if_pos rfl]
  split
  · next hfound => exact absurd (hfound.symm.trans h) (by simp)
  · rfl

theorem marker_append (name : String) (rest : List Char) :
    marker name ++ rest = '{' :: (name.toList ++ '}' :: rest) := by
  simp [marker]

theorem textBehind?_append (hname : '}' ∉ name.toList) (rest : List Char) :
    textBehind? textOf (name.toList ++ '}' :: rest) = (textOf name).map (·, rest) := by
  simp only [textBehind?, Text.cutAt?_append hname, String.ofList_toList]

theorem textBehind?_of_notMem (h : '}' ∉ cs) : textBehind? textOf cs = none := by
  simp only [textBehind?, Text.cutAt?_of_notMem h]

/-- A marker of a known name becomes the text of the name. -/
theorem substitute_marker (hname : '}' ∉ name.toList) (htext : textOf name = some text)
    (rest : List Char) :
    substitute textOf (marker name ++ rest) = text.toList ++ substitute textOf rest := by
  have hbehind : textBehind? textOf (name.toList ++ '}' :: rest) = some (text, rest) := by
    rw [textBehind?_append hname, htext, Option.map_some]
  rw [marker_append, substitute, if_pos rfl]
  split
  · next found after hfound =>
    obtain ⟨rfl, rfl⟩ := Prod.mk.inj (Option.some.inj (hfound.symm.trans hbehind))
    rfl
  · next hnone => exact absurd (hnone.symm.trans hbehind) (by simp)

/-- Text without opening braces stays. -/
theorem substitute_append_of_notMem (rest : List Char) : ∀ {front : List Char}, '{' ∉ front →
    substitute textOf (front ++ rest) = front ++ substitute textOf rest
  | [], _ => rfl
  | c :: front, h => by
    obtain ⟨hc, hfront⟩ := not_or.mp fun hor => h (List.mem_cons.mpr hor)
    rw [List.cons_append, substitute_of_ne (fun heq => hc heq.symm),
      substitute_append_of_notMem rest hfront, List.cons_append]

/-- The marker of an unknown name stays. -/
theorem substitute_marker_of_unknown (hname : Braceless name.toList) (htext : textOf name = none)
    (rest : List Char) :
    substitute textOf (marker name ++ rest) = marker name ++ substitute textOf rest := by
  have hbehind : textBehind? textOf (name.toList ++ '}' :: rest) = none := by
    rw [textBehind?_append hname.2, htext, Option.map_none]
  rw [marker_append, marker_append, substitute_of_textBehind?_eq_none hbehind,
    substitute_append_of_notMem _ hname.1, substitute_of_ne (by decide)]

/-- Text without closing braces stays. -/
theorem substitute_of_notMem : ∀ {cs : List Char}, '}' ∉ cs → substitute textOf cs = cs
  | [], _ => by rw [substitute]
  | c :: cs, h => by
    have hcs : '}' ∉ cs := fun hmem => h (List.mem_cons_of_mem c hmem)
    have ih : substitute textOf cs = cs := substitute_of_notMem hcs
    by_cases hc : c = '{'
    · subst hc
      rw [substitute_of_textBehind?_eq_none (textBehind?_of_notMem hcs), ih]
    · rw [substitute_of_ne hc, ih]

/-- Nothing is known. -/
theorem substitute_none : ∀ (cs : List Char), substitute (fun _ => none) cs = cs
  | [] => by rw [substitute]
  | c :: cs => by
    have hbehind : textBehind? (fun _ => none) cs = none := by
      unfold textBehind?
      split
      · rfl
      · rfl
    by_cases hc : c = '{'
    · subst hc
      rw [substitute_of_textBehind?_eq_none hbehind, substitute_none cs]
    · rw [substitute_of_ne hc, substitute_none cs]

end

/-! ## One marker -/

/-- The text of one name only. -/
def only (name text : String) (other : String) : Option String :=
  if name = other then some text else none

/-- A text that begins with a marker. -/
theorem marker_isPrefixOf_iff {name : String} {c : Char} {cs : List Char} :
    (marker name).isPrefixOf (c :: cs) = true ↔
      ∃ rest, c = '{' ∧ cs = name.toList ++ '}' :: rest := by
  rw [List.isPrefixOf_iff_prefix]
  constructor
  · rintro ⟨rest, hrest⟩
    rw [marker_append] at hrest
    exact ⟨rest, (List.cons.inj hrest).1.symm, (List.cons.inj hrest).2.symm⟩
  · rintro ⟨rest, rfl, rfl⟩
    exact ⟨rest, marker_append name rest⟩

/-- **Replacing one marker is a pass for its name alone**, in any text.  By induction on the
recursion of the replacement. -/
theorem replaceAll_marker {name : String} (hname : '}' ∉ name.toList) (text : String)
    (cs : List Char) :
    Text.replaceAll (marker name) text.toList cs = substitute (only name text) cs := by
  fun_induction Text.replaceAll (marker name) text.toList cs with
  | case1 => rw [substitute]
  | case2 c cs hprefix ih =>
    obtain ⟨rest, rfl, rfl⟩ := marker_isPrefixOf_iff.mp hprefix
    have hdrop : (name.toList ++ '}' :: rest).drop ((marker name).length - 1) = rest := by
      have hlength : (marker name).length - 1 = (name.toList ++ ['}']).length := by simp [marker]
      rw [hlength, List.append_cons name.toList '}' rest, List.drop_left]
    rw [hdrop] at ih
    rw [hdrop, ← marker_append, substitute_marker hname (if_pos rfl), ih]
  | case3 c cs hprefix ih =>
    rw [ih]
    by_cases hc : c = '{'
    · subst hc
      refine (substitute_of_textBehind?_eq_none ?_).symm
      unfold textBehind?
      split
      · rename_i found after hcut
        obtain ⟨rfl, -⟩ := Text.eq_append_of_cutAt? hcut
        rw [Option.map_eq_none_iff, only, if_neg]
        rintro rfl
        exact hprefix (marker_isPrefixOf_iff.mpr ⟨after, rfl, by rw [String.toList_ofList]⟩)
      · rfl
    · rw [substitute_of_ne hc]

/-! ## A pass after a pass -/

/-- **Two passes are one.**  What the first pass puts in place has no brace, so in flat text the
second pass meets the same markers, less those that are gone.  By induction on the layout. -/
theorem substitute_substitute {f g : String → Option String}
    (htexts : ∀ name text, f name = some text → '{' ∉ text.toList) {cs : List Char} (h : Laid cs) :
    substitute g (substitute f cs) = substitute (fun name => (f name).or (g name)) cs := by
  induction h with
  | nil => simp only [substitute]
  | char hc _ ih => rw [substitute_of_ne hc, substitute_of_ne hc, substitute_of_ne hc, ih]
  | @unclosed rest hrest =>
    have hclose : '}' ∉ '{' :: rest := fun hmem =>
      (List.mem_cons.mp hmem).elim (fun heq => absurd heq (by decide)) hrest
    rw [substitute_of_notMem hclose, substitute_of_notMem hclose, substitute_of_notMem hclose]
  | @braced inner rest hinner _ ih =>
    have hname : Braceless (String.ofList inner).toList := by rwa [String.toList_ofList]
    have hmarker : '{' :: (inner ++ '}' :: rest) = marker (String.ofList inner) ++ rest := by
      rw [marker_append, String.toList_ofList]
    rw [hmarker]
    cases hf : f (String.ofList inner) with
    | some text =>
      rw [substitute_marker hname.2 hf, substitute_append_of_notMem _ (htexts _ _ hf), ih,
        substitute_marker hname.2 (congrArg (Option.or · _) hf)]
    | none =>
      rw [substitute_marker_of_unknown hname hf]
      cases hg : g (String.ofList inner) with
      | some text =>
        rw [substitute_marker hname.2 hg, ih, substitute_marker hname.2]
        rw [hf, hg, Option.none_or]
      | none =>
        rw [substitute_marker_of_unknown hname hg, ih, substitute_marker_of_unknown hname]
        rw [hf, hg, Option.none_or]

/-! ## All markers -/

/-- The text of a name is that of the first entry of the name. -/
theorem get?_concat (front : List (String × String)) (entry : String × String) :
    (mk (front ++ [entry])).get? =
      fun name => ((mk front).get? name).or (only entry.1 entry.2 name) := by
  funext name
  simp only [get?, List.find?_append, only]
  cases front.find? fun e => e.1 == name with
  | some found => rfl
  | none =>
    rw [Option.none_or, Option.map_none, Option.none_or, List.find?_singleton]
    by_cases hname : entry.1 = name
    · rw [if_pos hname, if_pos (beq_iff_eq.mpr hname), Option.map_some]
    · rw [if_neg hname, if_neg fun h => hname (beq_iff_eq.mp h), Option.map_none]

/-- The text of a name is one of the texts. -/
theorem mem_of_get? {subs : SubTemplates} {name text : String} (h : subs.get? name = some text) :
    (name, text) ∈ subs.entries := by
  obtain ⟨entry, hfind, rfl⟩ := Option.map_eq_some_iff.mp h
  have hname : entry.1 = name := by simpa using List.find?_some hfind
  subst hname
  exact List.mem_of_find?_eq_some hfind

/-- **Sub-templates are put in flat text as if at once.**  By induction on the sub-templates from
the last one back: it goes over the text that the others have left. -/
theorem apply_eq_substitute (entries : List (String × String)) {text : List Char}
    (hentries : ∀ e ∈ entries, Braceless e.1.toList ∧ Braceless e.2.toList) (htext : Flat text) :
    (mk entries).apply text = substitute (mk entries).get? text := by
  induction entries using List.reverseRecOn with
  | nil => exact (substitute_none text).symm
  | append_singleton front entry ih =>
    obtain ⟨hfront, hentry⟩ := List.forall_mem_append.mp hentries
    have happly : (mk (front ++ [entry])).apply text =
        Text.replaceAll (marker entry.1) entry.2.toList ((mk front).apply text) := by
      rw [apply, List.foldl_append]
      rfl
    have htexts : ∀ name text, (mk front).get? name = some text → '{' ∉ text.toList :=
      fun name text hget => (hfront _ (mem_of_get? hget)).2.1
    rw [happly, ih hfront, replaceAll_marker (hentry _ List.mem_cons_self).1.2,
      substitute_substitute htexts htext.laid, get?_concat]

/-! ## The order of sub-templates -/

/-- A name that is given once has the text that it is given with. -/
theorem get?_eq_some_iff {entries : List (String × String)} {name text : String}
    (h : (entries.map Prod.fst).Nodup) :
    (mk entries).get? name = some text ↔ (name, text) ∈ entries := find?_name_eq_some_iff h

theorem insertEntry_of_notMem {name text : String} : ∀ {entries : List (String × String)},
    name ∉ entries.map Prod.fst → insertEntry name text entries = entries ++ [(name, text)]
  | [], _ => rfl
  | entry :: rest, h => by
    obtain ⟨hname, hrest⟩ := not_or.mp fun hor => h (List.mem_cons.mpr hor)
    rw [insertEntry, if_neg fun heq => hname heq.symm, insertEntry_of_notMem hrest]
    rfl

/-- Names that are given once stand in the order in which they are given. -/
theorem entries_foldl_insert : ∀ {pairs : List (String × String)} {subs : SubTemplates},
    ((subs.entries ++ pairs).map Prod.fst).Nodup →
      (pairs.foldl (fun subs p => subs.insert p.1 p.2) subs).entries = subs.entries ++ pairs
  | [], subs, _ => (List.append_nil _).symm
  | p :: pairs, subs, h => by
    have hnew : p.1 ∉ subs.entries.map Prod.fst := by
      rw [List.map_append, List.nodup_append] at h
      exact fun hmem => h.2.2 _ hmem _ List.mem_cons_self rfl
    have hinsert : (subs.insert p.1 p.2).entries = subs.entries ++ [p] :=
      insertEntry_of_notMem hnew
    have hrest : (((subs.insert p.1 p.2).entries ++ pairs).map Prod.fst).Nodup := by
      rwa [hinsert, List.append_assoc, List.singleton_append]
    rw [List.foldl_cons, entries_foldl_insert hrest, hinsert, List.append_assoc,
      List.singleton_append]

theorem ofList_eq {pairs : List (String × String)} (h : (pairs.map Prod.fst).Nodup) :
    ofList pairs = ⟨pairs⟩ :=
  congrArg mk (@entries_foldl_insert pairs empty h)

/-- An object of texts gives the sub-templates that its entries give. -/
theorem ofJson_object (pairs : List (String × String)) :
    ofJson (.object (pairs.map fun p => (p.1, Json.string p.2))) = .ok (ofList pairs) := by
  have hgo : ∀ (pairs : List (String × String)) (subs : SubTemplates),
      ofJson.go subs (pairs.map fun p => (p.1, Json.string p.2)) =
        .ok (pairs.foldl (fun subs p => subs.insert p.1 p.2) subs) := by
    intro pairs
    induction pairs with
    | nil => exact fun subs => rfl
    | cons p pairs ih => exact fun subs => ih (subs.insert p.1 p.2)
  exact hgo pairs empty

/-- **The order of sub-templates does not matter on flat text.**  Names and texts without braces, no
name given twice, are put in flat text as if at once, in whatever order they are given and whether
as a list or as an object: every marker of a name becomes the text that the name is given with. -/
theorem apply_of_perm {pairs order : List (String × String)} {text : List Char}
    (hnames : (pairs.map Prod.fst).Nodup)
    (hpairs : ∀ p ∈ pairs, Braceless p.1.toList ∧ Braceless p.2.toList) (htext : Flat text)
    (horder : order.Perm pairs) :
    (ofList order).apply text = substitute (ofList pairs).get? text ∧
      ofJson (.object (order.map fun p => (p.1, Json.string p.2))) = .ok (ofList order) ∧
      ∀ name body, (ofList pairs).get? name = some body ↔ (name, body) ∈ pairs := by
  have hothers : (order.map Prod.fst).Nodup := (horder.map Prod.fst).nodup_iff.mpr hnames
  have hget : (mk order).get? = (mk pairs).get? := funext (find?_name_of_perm hothers horder)
  refine ⟨?_, ofJson_object order, fun name body => ?_⟩
  · rw [ofList_eq hothers, ofList_eq hnames, ← hget]
    exact apply_eq_substitute order (fun p hp => hpairs p (horder.mem_iff.mp hp)) htext
  · rw [ofList_eq hnames]
    exact get?_eq_some_iff hnames

/-- A greeting, with its sub-templates given in the other order; nobody knows the place. -/
theorem apply_of_perm_of_greeting :
    (ofList [("name", "Ann"), ("greeting", "Hello")]).apply
        "{greeting}, {name} of {place}!".toList = "Hello, Ann of {place}!".toList ∧
      ofJson (.object [("name", .string "Ann"), ("greeting", .string "Hello")]) =
        .ok (ofList [("name", "Ann"), ("greeting", "Hello")]) := by
  have hcut : "{greeting}, {name} of {place}!".toList =
      '{' :: ("greeting".toList ++ '}' :: (", ".toList ++ '{' :: ("name".toList ++ '}' ::
        (" of ".toList ++ '{' :: ("place".toList ++ '}' :: ("!".toList ++ [])))))) := by
    decide +kernel
  have hlaid : Laid "{greeting}, {name} of {place}!".toList := by
    rw [hcut]
    refine .braced (by decide +kernel) (.append_of_notMem ?_ (by decide +kernel))
    refine .braced (by decide +kernel) (.append_of_notMem ?_ (by decide +kernel))
    exact .braced (by decide +kernel) (.append_of_notMem .nil (by decide +kernel))
  have horder : [("name", "Ann"), ("greeting", "Hello")].Perm
      [("greeting", "Hello"), ("name", "Ann")] := .swap _ _ []
  obtain ⟨happly, hjson, -⟩ :=
    apply_of_perm (by decide +kernel) (by decide +kernel) hlaid.flat horder
  refine ⟨happly.trans ?_, hjson⟩
  decide +kernel

end SubTemplates

end TagTemplates
