import TagTemplates.Proofs.Dump.Faithful
import TagTemplates.Proofs.Liquid.ReadBack
import TagTemplates.Proofs.Session.Rendering
import TagTemplates.Proofs.Template.Scanning

/-!
# Single tags

Two kinds of tags can be told without a look at the schemas behind them.  Where nothing is
registered under the root of a tag, the data of a render hold nothing for it, so the tag shows its
fallback unless the template binds the root itself.  And the tag of a declared field leads to this
field, whatever the data look like.

* `follow?_context_of_unknown`, `follow?_context_field`: where the two kinds lead.
* `Schema.fieldPath`: the path of a declared field, with `readTag_fieldPath`.
* `Session.Tells`: text and tags of the two kinds.
* `ShowsUnbound`, `showsUnbound_of_unknown`: a tag with an unknown root, anywhere in a template.
* `render_of_tells`: a template of such text and tags.
* `tags_read_back`: which tags are read back, and what those of the two kinds show.
-/

namespace TagTemplates

open Liquid

/-- The path of a declared field. -/
def Schema.fieldPath (root : Schema) (field : Field) : Path := ⟨⟨root.key, none⟩, [⟨field.key, none⟩]⟩

/-- The folded form of a tag name is a run of name characters. -/
theorem run_fold_of_isTagName {name : String} (h : isTagName name = true) :
    Run Text.isNameChar (Text.fold name).toList :=
  run_of_fold_eq h (Text.fold_fold name)

namespace Node

/-- Everything below the missing node is missing. -/
theorem take?_missing (s : Step) : missing.take? s = some missing := by
  rw [take?]
  cases s.index with
  | none => rfl
  | some i => rfl

theorem follow?_missing : ∀ steps : List Step, missing.follow? steps = some missing
  | [] => rfl
  | s :: rest => by rw [follow?_cons_of_take? (take?_missing s), follow?_missing rest]

end Node

namespace Session

variable {session : Session} {entries : List (String × Json)} {context : Node}

/-! ## Roots that are not registered -/

/-- A tag with an unknown root is looked up as it was written, and stands for its fallback. -/
theorem screen_of_unknown {path : Path} (hroot : session.registry.lookup? path.root.name = none) :
    screen session.registry path = .lookup path := by
  rw [screen, hroot]

theorem tagText_of_unknown {path : Path} (fallback : Fallback)
    (hroot : session.registry.lookup? path.root.name = none) :
    session.tagText context fallback path = fallback.resolve path := by
  refine tagText_of_unresolved fun r hresolve => ?_
  obtain ⟨-, hlookup, -⟩ := Registry.resolveTag_eq_ok_iff.mp hresolve
  exact absurd (hroot.symm.trans hlookup) (by simp)

section AnyLibrary

variable [Library]

/-- Only data of registered roots are dumped. -/
theorem isSome_lookup?_of_mem_dumpRoots {registry : Registry} {displayKey : String} :
    ∀ {entries : List (String × Json)} {nodes : List (String × Node)},
      dumpRoots registry displayKey entries = .ok nodes →
        ∀ e ∈ nodes, (registry.lookup? e.1).isSome = true
  | [], nodes, h => by
    obtain rfl : [] = nodes := Except.ok.inj h
    exact fun e he => absurd he List.not_mem_nil
  | (name, v) :: rest, nodes, h => by
    rcases dumpRoots_cons_eq_ok h with ⟨-, hrest⟩ | ⟨schema, node, more, hsome, -, hmore, rfl⟩
    · exact isSome_lookup?_of_mem_dumpRoots hrest
    · refine List.forall_mem_cons.mpr ⟨?_, isSome_lookup?_of_mem_dumpRoots hmore⟩
      rw [hsome]
      rfl

/-- The data of a render hold nothing for a root that is not registered. -/
theorem named?_context_of_unknown (h : session.context entries = .ok context) {name : String}
    (hroot : session.registry.lookup? name = none) : context.named? name = some .missing := by
  obtain ⟨nodes, hnodes, hcontext⟩ := bind_eq_ok_iff.mp h
  obtain rfl : Node.ofFields session.displayKey nodes = context := Except.ok.inj hcontext
  have hfresh : Text.fold name ∉ Node.keys nodes := by
    intro hmem
    obtain ⟨e, he, hkey⟩ := List.mem_map.mp hmem
    have hsome := isSome_lookup?_of_mem_dumpRoots hnodes e he
    rw [Registry.lookup?_congr hkey, hroot] at hsome
    exact absurd hsome (by simp)
  have hnone : Node.fieldAt? (Text.fold name) (Node.insertFields nodes []) = none :=
    Node.fieldAt?_insertFields_of_notMem hfresh
  show some ((Node.fieldAt? (Text.fold name) (Node.insertFields nodes [])).getD .missing) = _
  rw [hnone]
  rfl

/-- **A path with an unknown root leads nowhere.** -/
theorem follow?_context_of_unknown (h : session.context entries = .ok context) {path : Path}
    (hroot : session.registry.lookup? path.root.name = none) :
    context.follow? path.steps = some .missing := by
  have htake : context.take? path.root = some .missing := by
    rw [Node.take?, named?_context_of_unknown h hroot]
    cases path.root.index with
    | none => rfl
    | some i => rfl
  rw [Path.steps, Node.follow?_cons_of_take? htake, Node.follow?_missing]

/-- Wherever this output stands in a template it shows a text: finalization leaves it as it is, it is
read as a chain up to its end, and with these data the chain prints the text where no loop and no
assignment binds the name. -/
def ShowsUnbound (context : Node) (name text : String) (written : List Char) : Prop :=
  ∃ chain,
    (∀ after, finalizeOutputs (written ++ after) = (finalizeOutputs after).map (written ++ ·)) ∧
    (∀ after, ∃ calls source, readOutput (written ++ after) = some (.output calls source, after) ∧
      Chain.ofCalls? calls = some chain) ∧
    ∀ scope p, scope.data = context → boundValue? scope p.assigned name = none →
      Part.render scope p (.output chain) = some (p.print text)

/-- **A tag with an unknown root shows its fallback anywhere.** -/
theorem showsUnbound_of_unknown (h : session.context entries = .ok context) {path : Path}
    (hreadable : ∀ s ∈ path.steps, s.Readable) (hwords : beginsWithWord path.root.name = false)
    (hroot : session.registry.lookup? path.root.name = none) {fallback : Fallback}
    (hquotable : Quotable (fallback.resolve path).toList) :
    ShowsUnbound context path.root.name (fallback.resolve path)
      ((Expansion.lookup path).write (quotedText (fallback.resolve path).toList)) := by
  refine ⟨(Expansion.lookup path).chain (fallback.resolve path).toList, fun after => ?_,
    fun after => ?_, fun scope p hdata hbound => ?_⟩
  · rw [finalizeOutputs_write_lookup hquotable (named_of_readable hreadable), write_lookup]
    rfl
  · obtain ⟨-, hread⟩ := Expansion.sound_chunk_lookup hquotable hreadable hwords
    obtain ⟨calls, source, houtput, hchain⟩ := hread after
    refine ⟨calls, source, ?_, hchain⟩
    rw [write_lookup]
    simpa only [List.cons_append, List.append_assoc, List.nil_append] using houtput
  · have hfollow : scope.data.follow? path.steps = some .missing := by
      rw [hdata]
      exact follow?_context_of_unknown h hroot
    have hchain := evaluate_chain_lookup hbound hfollow (fallback.resolve path).toList
    obtain ⟨v, hv, htext⟩ := Option.map_eq_some_iff.mp hchain
    rw [Part.render, hv, Option.map_some, htext, String.ofList_toList]
    rfl

end AnyLibrary

/-! ## Declared fields -/

/-- The tag of a declared field is read as its path. -/
theorem readTag_fieldPath {root : Schema} (hbuilt : root.Built) {field : Field}
    (hfield : field ∈ root.fields) :
    Path.readTag (root.fieldPath field).tag = .ok (root.fieldPath field) := by
  have hspelled : ∀ name : String, isTagName name = true →
      (⟨Text.fold name, none⟩ : Step).SpelledBy (⟨Text.fold name, none⟩ : Step).source := by
    intro name hname
    refine Step.spelledBy_source (run_fold_of_isTagName hname) (Text.fold_fold name) ?_
    exact fun i hi => absurd hi (by simp)
  refine readTag_tag (List.forall_mem_cons.mpr ⟨hspelled root.name hbuilt.isTagName, ?_⟩)
  exact List.forall_mem_singleton.mpr (hspelled field.name (hbuilt.isTagName_field field hfield))

/-- The tag of a declared field is looked up as it is written, if it resolves. -/
theorem canonical_fieldPath {registry : Registry} {root : Schema} {field : Field} {r : Resolution}
    (hroot : registry.lookup? root.name = some root) (hfield : field ∈ root.fields)
    (h : registry.resolveTag (root.fieldPath field) = .ok r) :
    r.canonical = root.fieldPath field := by
  obtain ⟨-, hlookup, hsteps, -, -⟩ := Registry.resolveTag_eq_ok_iff.mp h
  have hkey : registry.lookup? root.key = some root := by
    rw [Registry.lookup?_key, hroot]
  obtain rfl : root = r.root := Option.some_inj.mp (hkey.symm.trans hlookup)
  have hdeclared : (r.root.field? field.key).isNone = false := by
    rw [Option.isNone_eq_false_iff]
    exact Schema.isSome_field?_key hfield
  have hkeep : stepsBelow r.root (r.root.fieldPath field).rest = (r.root.fieldPath field).rest := by
    refine if_neg fun hskip => ?_
    have hnone := (Bool.and_eq_true_iff.mp hskip).2
    exact absurd (hnone.symm.trans hdeclared) (by simp)
  rw [Resolution.canonical, hsteps, hkeep]
  rfl

section AnyLibrary

variable [Library]

/-- What is dumped through a schema has an entry for every name, or is missing. -/
theorem exists_named?_of_dump {registry : Registry} {displayKey : String} {schema : Schema}
    {v : Json} {node : Node} (h : registry.dump displayKey schema v = .ok node) (name : String) :
    ∃ found, node.named? name = some found := by
  cases hv : v.object? with
  | none =>
    obtain rfl : Node.missing = node :=
      Except.ok.inj ((Registry.dump_of_ne_object hv).symm.trans h)
    exact ⟨_, rfl⟩
  | some entries =>
    obtain rfl := Json.eq_object_of_object? hv
    obtain ⟨nodes, rendered, -, -, rfl⟩ := Registry.dump_object_eq_ok h
    exact ⟨_, rfl⟩

/-- **The path of a declared field can be walked**, whatever the data look like. -/
theorem follow?_context_field (h : session.context entries = .ok context) {root : Schema}
    (hroot : session.registry.lookup? root.name = some root) (field : Field) :
    ∃ found, context.follow? (root.fieldPath field).steps = some found := by
  obtain ⟨node, hentry, hdump⟩ := named?_context h hroot
  obtain ⟨found, hfound⟩ := exists_named?_of_dump hdump field.key
  have htake : context.take? ⟨root.key, none⟩ = some node := hentry
  have hnext : node.take? ⟨field.key, none⟩ = some found := hfound
  refine ⟨found, ?_⟩
  rw [Path.steps, Schema.fieldPath, Node.follow?_cons_of_take? htake,
    Node.follow?_cons_of_take? hnext]
  rfl

/-! ## Text and single tags -/

/-- Text without an opening brace, or a tag that is read back, with a fallback that leaves one kind
of quotes free: either its root is not registered, or it is the tag of a declared field. -/
def Tells (session : Session) (fallback : Fallback) : Segment → Prop
  | .text chars => '{' ∉ chars
  | .tag path _ => path.ReadsBack ∧ Quotable (fallback.resolve path).toList ∧
      (session.registry.lookup? path.root.name = none ∨
        ∃ root, session.registry.lookup? root.name = some root ∧
          ∃ field ∈ root.fields, path = root.fieldPath field)

/-- How such a tag is expanded, and what it stands for. -/
theorem screen_of_tells (h : session.context entries = .ok context) {fallback : Fallback}
    {path : Path} {source : List Char} (htells : session.Tells fallback (.tag path source)) :
    (screen session.registry path = .unresolved ∧
      session.tagText context fallback path = fallback.resolve path) ∨
    (screen session.registry path = .lookup path ∧
      ∃ found, context.follow? path.steps = some found ∧
        session.tagText context fallback path =
          found.shown session.displayKey (fallback.resolve path)) := by
  obtain ⟨-, -, hunknown | ⟨root, hroot, field, hfield, rfl⟩⟩ := htells
  · refine Or.inr ⟨screen_of_unknown hunknown, .missing, follow?_context_of_unknown h hunknown, ?_⟩
    exact tagText_of_unknown fallback hunknown
  · have hsome : (session.registry.lookup? (root.fieldPath field).root.name).isSome = true := by
      show (session.registry.lookup? root.key).isSome = true
      rw [Registry.lookup?_key, hroot]
      rfl
    rcases screen_cases hsome with ⟨hscreen, hall⟩ | ⟨r, hresolve, hthrough, hscreen⟩
    · exact Or.inl ⟨hscreen, tagText_of_unresolved hall⟩
    · obtain ⟨found, hfollow⟩ := follow?_context_field h hroot field
      have hcanonical := canonical_fieldPath hroot hfield hresolve
      rw [hcanonical] at hscreen
      refine Or.inr ⟨hscreen, found, hfollow, ?_⟩
      rw [tagText_of_resolved hresolve hthrough, hcanonical, Node.find_of_follow? hfollow]

/-- **Text and single tags are rendered**: one after another, each shows what it stands for. -/
theorem render_of_tells (h : session.context entries = .ok context) {options : RenderOptions}
    (hsub : options.subTemplates = .empty) (hpass : options.preProcess = none)
    {template : List Char} {segments : List Segment} (hscan : scan template = .ok segments)
    (htells : ∀ s ∈ segments, session.Tells (options.fallback.getD session.fallback) s) :
    session.render (.object entries) template options =
      .ok (Text.concat
        (segments.map (session.segmentText context (options.fallback.getD session.fallback)))) := by
  have hcut := (cutOf_of_scanSegments template (scan_eq_ok_iff.mp hscan)).1
  refine render_of_sound hsub hpass h hscan fun s hs => ?_
  have hs' := htells s hs
  cases s with
  | text chars => exact ⟨hs', hs', rfl⟩
  | tag path source =>
    obtain ⟨hpath, hquotable, -⟩ := hs'
    have hreadable := hpath.readable (hcut.tag path source hs)
    rcases screen_of_tells h (htells _ hs) with ⟨hscreen, htext⟩ | ⟨hscreen, found, hfollow, htext⟩
    · rw [Segment.Expandable, Segment.chunk, hscreen]
      refine ⟨⟨hquotable, trivial⟩, Expansion.sound_chunk_unresolved hquotable, ?_⟩
      rw [print?_chunk_unresolved, segmentText, htext, String.ofList_toList]
    · rw [Segment.Expandable, Segment.chunk, hscreen]
      refine ⟨⟨hquotable, hreadable⟩, Expansion.sound_chunk_lookup hquotable hreadable hpath.root, ?_⟩
      rw [print?_chunk_lookup hfollow, segmentText, htext, String.ofList_toList]

/-- **Which tags are read back, and what they show.**  The template language reads back exactly the
tags whose names begin like variables and whose root begins with no literal word.  Of these, a tag
whose root is not registered shows its fallback wherever nothing binds the root, a template of text
and single tags shows what they stand for, and every declared field has a tag that is rendered. -/
theorem tags_read_back (h : session.context entries = .ok context) :
    (∀ tag path, Path.readTag tag = .ok path → ∀ rest, endsPath rest = true →
      (readValue (path.expression ++ rest) = some (path.variable, rest) ↔ path.ReadsBack)) ∧
    (∀ tag path, Path.readTag tag = .ok path → path.ReadsBack →
      session.registry.lookup? path.root.name = none → ∀ fallback : Fallback,
        Quotable (fallback.resolve path).toList → ∃ written,
          expandSegment fallback (screen session.registry) (.tag path tag) = .ok written ∧
            ShowsUnbound context path.root.name (fallback.resolve path) written) ∧
    ∀ options : RenderOptions, options.subTemplates = .empty → options.preProcess = none →
      (∀ template segments, scan template = .ok segments →
        (∀ s ∈ segments, session.Tells (options.fallback.getD session.fallback) s) →
          session.render (.object entries) template options =
            .ok (Text.concat (segments.map
              (session.segmentText context (options.fallback.getD session.fallback))))) ∧
      ∀ root : Schema, root.Built → session.registry.lookup? root.name = some root →
        ∀ field ∈ root.fields,
          Path.readTag (root.fieldPath field).tag = .ok (root.fieldPath field) ∧
          ((root.fieldPath field).ReadsBack →
            Quotable ((options.fallback.getD session.fallback).resolve
              (root.fieldPath field)).toList →
            session.render (.object entries) (root.fieldPath field).tag options =
              .ok (session.tagText context (options.fallback.getD session.fallback)
                (root.fieldPath field))) := by
  refine ⟨fun tag path hread rest hrest => readValue_expression_iff hread hrest,
    fun tag path hread hpath hroot fallback hquotable => ?_,
    fun options hsub hpass => ⟨fun template segments hscan htells =>
      render_of_tells h hsub hpass hscan htells, ?_⟩⟩
  · refine ⟨_, ?_, showsUnbound_of_unknown h (hpath.readable hread) hpath.root hroot hquotable⟩
    rw [expandSegment, quoteLiteral_eq_ok hquotable, screen_of_unknown hroot]
  · intro root hbuilt hroot field hfield
    have hread := readTag_fieldPath hbuilt hfield
    refine ⟨hread, fun hpath hquotable => ?_⟩
    have hscan := scan_of_readTag hread
    have htells : session.Tells (options.fallback.getD session.fallback)
        (.tag (root.fieldPath field) (root.fieldPath field).tag) :=
      ⟨hpath, hquotable, Or.inr ⟨root, hroot, field, hfield, rfl⟩⟩
    rw [render_of_tells h hsub hpass hscan (List.forall_mem_singleton.mpr htells), List.map_singleton,
      Text.concat_cons, Text.concat_nil, String.append_empty]
    rfl

end AnyLibrary

/-! ## Two sessions -/

/-- A session with pages, where records show their labels. -/
def pageSession : Session := ⟨Registry.pages, "label", default⟩

/-- The data of a page. -/
def pageData : List (String × Json) := [("page", .object Registry.pageEntries)]

/-- What these data are dumped to. -/
def pageContext : Node :=
  .record "label" [("page", .record "label" [("title", .ofText "Home"), ("label", .ofText "Home")])]

theorem context_pageSession : pageSession.context pageData = .ok pageContext := by
  have hlookup : Registry.pages.lookup? "page" = some Registry.pageSchema := by decide +kernel
  show (dumpRoots Registry.pages "label" _ >>= _) = _
  rw [pageData, dumpRoots]
  simp only [hlookup, Registry.dump_pageSchema]
  rfl

/-- The tag of a cat that no page knows. -/
def catPath : Path := ⟨⟨"cat", none⟩, [⟨"name", some 1⟩]⟩

/-- A page shows its title, and a cat that no schema describes shows the fallback. -/
theorem render_of_page :
    readValue (catPath.expression ++ ['}', '}']) = some (catPath.variable, ['}', '}']) ∧
    (∃ written, expandSegment (.literal "?") (screen Registry.pages)
        (.tag catPath "{Cat.name:2}".toList) = .ok written ∧
      ShowsUnbound pageContext "cat" "?" written) ∧
    pageSession.render (.object pageData) "{page.title} {Cat.name:2}".toList
      { fallback := some (.literal "?") } = .ok "Home ?" ∧
    pageSession.render (.object pageData) "{page.title}".toList
      { fallback := some (.literal "?") } = .ok "Home" := by
  have htag : Path.readTag "{Cat.name:2}".toList = .ok catPath := by decide +kernel
  have hpath : catPath.ReadsBack := by decide +kernel
  have hscan : scan "{page.title} {Cat.name:2}".toList =
      .ok [.tag (Registry.pageSchema.fieldPath ⟨"title", .scalar⟩) "{page.title}".toList,
        .text [' '], .tag catPath "{Cat.name:2}".toList] := by
    decide +kernel
  have hlookup : pageSession.registry.lookup? "cat" = none := by decide +kernel
  have hroot : pageSession.registry.lookup? Registry.pageSchema.name =
      some Registry.pageSchema := by
    decide +kernel
  have hfield : (⟨"title", .scalar⟩ : Field) ∈ Registry.pageSchema.fields := List.mem_cons_self
  have htitle : (Registry.pageSchema.fieldPath ⟨"title", .scalar⟩).ReadsBack := by decide +kernel
  obtain ⟨hread, hunknown, hrender⟩ := tags_read_back context_pageSession
  obtain ⟨htemplate, hfields⟩ := hrender { fallback := some (.literal "?") } rfl rfl
  refine ⟨(hread _ catPath htag _ rfl).mpr hpath,
    hunknown _ catPath htag hpath hlookup (.literal "?") (by decide), ?_, ?_⟩
  · refine (htemplate _ _ hscan ?_).trans (by decide +kernel)
    refine List.forall_mem_cons.mpr ⟨⟨htitle, by decide, Or.inr ⟨_, hroot, _, hfield, rfl⟩⟩, ?_⟩
    refine List.forall_mem_cons.mpr ⟨(by decide : '{' ∉ [' ']),
      List.forall_mem_singleton.mpr ?_⟩
    exact ⟨hpath, by decide, Or.inl hlookup⟩
  · refine ((hfields _ Registry.built_pageSchema hroot _ hfield).2 htitle (by decide)).trans ?_
    decide +kernel

/-- A session without schemas. -/
def bareSession : Session := .make []

/-- The tag of a number. -/
def numberPath : Path := ⟨⟨"12", none⟩, []⟩

/-- A tag may be a number, which is not read as a variable: it shows the number in place of its
fallback. -/
theorem render_of_number :
    Path.readTag "{12}".toList = .ok numberPath ∧
    bareSession.registry.lookup? numberPath.root.name = none ∧
    readValue (numberPath.expression ++ ['}', '}']) ≠ some (numberPath.variable, ['}', '}']) ∧
    bareSession.render (.object []) "{12}".toList { fallback := some (.literal "?") } =
      .ok "12" := by
  refine ⟨by decide +kernel, by decide +kernel, ?_, by decide +kernel⟩
  exact readValue_of_isDigit (d := '1') rfl ['2', '}', '}']

end Session

end TagTemplates
