import TagTemplates.Proofs.Session.Context
import TagTemplates.Proofs.Template.Evaluation

/-!
# Rendering a template of text and tags

A render goes through text: tags are expanded to outputs, the outputs are finalized, read as a
template and evaluated.  For a template whose text holds no opening brace all this comes to one
direct evaluation, segment by segment, unless a tag is misread on the way.

* `Session.tagText`, `Session.segmentText`: the direct evaluation.
* `Session.misreads`: a tag whose canonical root begins with a literal word.
* `Session.Accepts`: text and tags that the evaluation speaks about.
* `screen_of_unresolved`, `screen_of_resolved`: how a tag with a registered root is expanded.
* `sound_chunk_tag`, `broken_chunk_tag`, `print?_chunk_tag`: what becomes of it.
* `render_eq_segmentText`: a whole render.
-/

namespace TagTemplates

open Liquid

namespace Session

/-- What a tag stands for: the fallback when it does not resolve or crosses a list, and otherwise
what its canonical path leads to in the data. -/
def tagText (session : Session) (context : Node) (fallback : Fallback) (path : Path) : String :=
  match session.registry.resolveTag path with
  | .error _ => fallback.resolve path
  | .ok r =>
    if r.throughList then fallback.resolve path
    else (context.find r.canonical.steps).shown session.displayKey (fallback.resolve path)

/-- What a segment stands for. -/
def segmentText (session : Session) (context : Node) (fallback : Fallback) : Segment → String
  | .text chars => String.ofList chars
  | .tag path _ => session.tagText context fallback path

/-- Whether a tag is looked up by a path whose root begins with a literal word: the template
language reads the word and not the root. -/
def misreads (session : Session) (path : Path) : Bool :=
  match session.registry.resolveTag path with
  | .error _ => false
  | .ok r => !r.throughList && beginsWithWord r.root.key

/-- Whether a segment is a tag that is misread. -/
def misreadsSegment (session : Session) : Segment → Bool
  | .text _ => false
  | .tag path _ => session.misreads path

/-- Text without an opening brace, or a tag with a registered root and a fallback that leaves one
kind of quotes free. -/
def Accepts (session : Session) (fallback : Fallback) : Segment → Prop
  | .text chars => '{' ∉ chars
  | .tag path _ => (session.registry.lookup? path.root.name).isSome = true ∧
      Quotable (fallback.resolve path).toList

instance (session : Session) (fallback : Fallback) : DecidablePred (session.Accepts fallback)
  | .text chars => inferInstanceAs (Decidable ('{' ∉ chars))
  | .tag path _ => inferInstanceAs (Decidable (_ ∧ Quotable (fallback.resolve path).toList))

variable {session : Session} {registry : Registry}

/-! ## Tags -/

/-- A tag with a registered root that does not resolve, or crosses a list, names nothing. -/
theorem screen_of_unresolved {path : Path} (hroot : (registry.lookup? path.root.name).isSome = true)
    (h : ∀ r, registry.resolveTag path = .ok r → r.throughList = true) :
    screen registry path = .unresolved := by
  obtain ⟨root, hlookup⟩ := Option.isSome_iff_exists.mp hroot
  rw [screen, hlookup]
  cases hresolve : registry.resolveTag path with
  | error e => rfl
  | ok r =>
    show (if r.throughList then _ else _) = _
    rw [if_pos (h r hresolve)]

/-- A tag that resolves is looked up by its canonical path. -/
theorem screen_of_resolved {path : Path} {r : Resolution}
    (hroot : (registry.lookup? path.root.name).isSome = true)
    (h : registry.resolveTag path = .ok r) (hthrough : r.throughList = false) :
    screen registry path = .lookup r.canonical := by
  obtain ⟨root, hlookup⟩ := Option.isSome_iff_exists.mp hroot
  rw [screen, hlookup, h]
  show (if r.throughList then _ else _) = _
  rw [if_neg (by simp [hthrough])]

/-- How a tag that resolves is expanded. -/
theorem screen_of_resolveTag {path : Path} {r : Resolution}
    (h : registry.resolveTag path = .ok r) :
    screen registry path = if r.throughList then .unresolved else .lookup r.canonical := by
  obtain ⟨-, hroot, -⟩ := Registry.resolveTag_eq_ok_iff.mp h
  rw [screen, hroot, h]

/-- A tag with a registered root names nothing, or resolves without crossing a list. -/
theorem screen_cases {path : Path} (hroot : (registry.lookup? path.root.name).isSome = true) :
    (screen registry path = .unresolved ∧
      ∀ r, registry.resolveTag path = .ok r → r.throughList = true) ∨
    ∃ r, registry.resolveTag path = .ok r ∧ r.throughList = false ∧
      screen registry path = .lookup r.canonical := by
  by_cases h : ∃ r, registry.resolveTag path = .ok r ∧ r.throughList = false
  · obtain ⟨r, hresolve, hthrough⟩ := h
    exact Or.inr ⟨r, hresolve, hthrough, screen_of_resolved hroot hresolve hthrough⟩
  · have hall : ∀ r, registry.resolveTag path = .ok r → r.throughList = true := by
      intro r hresolve
      by_contra hnot
      exact h ⟨r, hresolve, by simpa using hnot⟩
    exact Or.inl ⟨screen_of_unresolved hroot hall, hall⟩

theorem misreads_of_unresolved {path : Path}
    (h : ∀ r, session.registry.resolveTag path = .ok r → r.throughList = true) :
    session.misreads path = false := by
  rw [misreads]
  cases hresolve : session.registry.resolveTag path with
  | error e => rfl
  | ok r => simp [h r hresolve]

theorem misreads_of_resolved {path : Path} {r : Resolution}
    (h : session.registry.resolveTag path = .ok r) (hthrough : r.throughList = false) :
    session.misreads path = beginsWithWord r.root.key := by
  rw [misreads, h]
  simp [hthrough]

theorem tagText_of_unresolved {context : Node} {fallback : Fallback} {path : Path}
    (h : ∀ r, session.registry.resolveTag path = .ok r → r.throughList = true) :
    session.tagText context fallback path = fallback.resolve path := by
  rw [tagText]
  cases hresolve : session.registry.resolveTag path with
  | error e => rfl
  | ok r =>
    show (if r.throughList then _ else _) = _
    rw [if_pos (h r hresolve)]

theorem tagText_of_resolved {context : Node} {fallback : Fallback} {path : Path} {r : Resolution}
    (h : session.registry.resolveTag path = .ok r) (hthrough : r.throughList = false) :
    session.tagText context fallback path =
      (context.find r.canonical.steps).shown session.displayKey (fallback.resolve path) := by
  rw [tagText, h]
  show (if r.throughList then _ else _) = _
  rw [if_neg (by simp [hthrough])]

/-- The root of a tag that resolves is registered. -/
theorem root_mem_of_resolveTag {path : Path} {r : Resolution}
    (h : registry.resolveTag path = .ok r) : r.root ∈ registry.schemas := by
  obtain ⟨-, hlookup, -⟩ := Registry.resolveTag_eq_ok_iff.mp h
  exact (Registry.mem_of_lookup?_eq_some hlookup).1

section Segments

variable {fallback : Fallback} (hbuilt : ∀ schema, session.registry.Knows schema → schema.Built)
  (hnames : session.registry.Identifiers)

include hbuilt hnames

/-- The path that a tag is looked up by can stand in a variable. -/
theorem readable_screen {path : Path} (hwritten : ∀ s ∈ path.steps, s.Written)
    (hroot : (session.registry.lookup? path.root.name).isSome = true) :
    (screen session.registry path).Readable := by
  rcases screen_cases hroot with ⟨hscreen, -⟩ | ⟨r, hresolve, hthrough, hscreen⟩
  · rw [hscreen]
    trivial
  · rw [hscreen]
    exact hnames.readable_of_resolveTag hbuilt hwritten hresolve

/-- **A tag is read back as it was meant**, unless it is misread. -/
theorem sound_chunk_tag [Library] {path : Path} (hwritten : ∀ s ∈ path.steps, s.Written)
    (hroot : (session.registry.lookup? path.root.name).isSome = true)
    (h : session.misreads path = false) {text : List Char} (htext : Quotable text) :
    ((screen session.registry path).chunk text).Sound := by
  rcases screen_cases hroot with ⟨hscreen, -⟩ | ⟨r, hresolve, hthrough, hscreen⟩
  · rw [hscreen]
    exact Expansion.sound_chunk_unresolved htext
  · rw [misreads_of_resolved hresolve hthrough] at h
    rw [hscreen]
    exact Expansion.sound_chunk_lookup htext
      (hnames.readable_of_resolveTag hbuilt hwritten hresolve) h

/-- **A tag that is misread cannot be read at all.** -/
theorem broken_chunk_tag {path : Path} (hwritten : ∀ s ∈ path.steps, s.Written)
    (hroot : (session.registry.lookup? path.root.name).isSome = true)
    (h : session.misreads path = true) (text : List Char) :
    ((screen session.registry path).chunk text).Broken := by
  rcases screen_cases hroot with ⟨-, hall⟩ | ⟨r, hresolve, hthrough, hscreen⟩
  · rw [misreads_of_unresolved hall] at h
    exact absurd h (by simp)
  · rw [misreads_of_resolved hresolve hthrough] at h
    have hreadable := hnames.readable_of_resolveTag hbuilt hwritten hresolve
    have hword := (hnames.readable_root hbuilt (root_mem_of_resolveTag hresolve)).2
    rw [hscreen]
    exact Expansion.broken_chunk_lookup (hreadable r.canonical.root List.mem_cons_self) h hword

/-- Accepted segments are expanded. -/
theorem expandable_of_accepts {s : Segment} (hwritten : s.Written)
    (h : session.Accepts fallback s) : s.Expandable fallback (screen session.registry) := by
  cases s with
  | text chars => exact h
  | tag path source => exact ⟨h.2, readable_screen hbuilt hnames hwritten h.1⟩

theorem sound_chunk [Library] {s : Segment} (hwritten : s.Written) (h : session.Accepts fallback s)
    (hmisreads : session.misreadsSegment s = false) :
    (s.chunk fallback (screen session.registry)).Sound := by
  cases s with
  | text chars => exact h
  | tag path source => exact sound_chunk_tag hbuilt hnames hwritten h.1 hmisreads h.2

theorem broken_chunk {s : Segment} (hwritten : s.Written) (h : session.Accepts fallback s)
    (hmisreads : session.misreadsSegment s = true) :
    (s.chunk fallback (screen session.registry)).Broken := by
  cases s with
  | text chars => exact absurd hmisreads (by simp [misreadsSegment])
  | tag path source => exact broken_chunk_tag hbuilt hnames hwritten h.1 hmisreads _

end Segments

/-- Chunks print one after another what each of them prints. -/
theorem mapM_print?_of_forall {scope : Scope} {chunk : Segment → Chunk} {out : Segment → String} :
    ∀ {segments : List Segment}, (∀ s ∈ segments, (chunk s).print? scope = some (out s)) →
      (segments.map chunk).mapM (Chunk.print? scope) = some (segments.map out)
  | [], _ => rfl
  | s :: rest, h => by
    obtain ⟨hs, hrest⟩ := List.forall_mem_cons.mp h
    rw [List.map_cons, List.mapM_cons, hs, mapM_print?_of_forall hrest]
    rfl

section Printing

variable [Library] {fallback : Fallback} {entries : List (String × Json)} {context : Node}
  (hbuilt : ∀ schema, session.registry.Knows schema → schema.Built)
  (hreserves : ∀ schema, session.registry.Knows schema → schema.Reserves session.displayKey)
  (hcontext : session.context entries = .ok context)

include hbuilt hreserves hcontext

/-- **A tag prints what it stands for.** -/
theorem print?_chunk_tag {path : Path}
    (hroot : (session.registry.lookup? path.root.name).isSome = true) :
    ((screen session.registry path).chunk (fallback.resolve path).toList).print?
        ⟨context, session.displayKey, []⟩ = some (session.tagText context fallback path) := by
  rcases screen_cases hroot with ⟨hscreen, hall⟩ | ⟨r, hresolve, hthrough, hscreen⟩
  · rw [hscreen, print?_chunk_unresolved, tagText_of_unresolved hall, String.ofList_toList]
  · obtain ⟨found, hfollow, -⟩ := follow?_context hbuilt hreserves hcontext hresolve hthrough
    rw [hscreen, print?_chunk_lookup hfollow, tagText_of_resolved hresolve hthrough,
      Node.find_of_follow? hfollow, String.ofList_toList]

theorem print?_chunk {s : Segment} (h : session.Accepts fallback s) :
    (s.chunk fallback (screen session.registry)).print? ⟨context, session.displayKey, []⟩ =
      some (session.segmentText context fallback s) := by
  cases s with
  | text chars => rfl
  | tag path source => exact print?_chunk_tag hbuilt hreserves hcontext h.1

/-- The chunks of accepted segments print what the segments stand for. -/
theorem mapM_print?_chunk {segments : List Segment}
    (h : ∀ s ∈ segments, session.Accepts fallback s) :
    (segments.map (Segment.chunk fallback (screen session.registry))).mapM
        (Chunk.print? ⟨context, session.displayKey, []⟩) =
      some (segments.map (session.segmentText context fallback)) :=
  mapM_print?_of_forall fun s hs => print?_chunk hbuilt hreserves hcontext (h s hs)

end Printing

/-! ## Whole renders -/

section AnyLibrary

variable [Library]

/-- Without sub-templates and without a pass a render comes to an expansion and a reading. -/
theorem render_object {options : RenderOptions} (hsub : options.subTemplates = .empty)
    (hpass : options.preProcess = none) {entries : List (String × Json)}
    {template expanded : List Char} {context : Node}
    (hexpanded :
      session.expandWith (options.fallback.getD session.fallback) template = .ok expanded)
    (hcontext : session.context entries = .ok context) :
    session.render (.object entries) template options =
      (renderTemplate session.displayKey context expanded).mapError .template := by
  have hplain : options.subTemplates.apply template = template := by
    rw [hsub]
    rfl
  rw [render]
  simp only [hplain, hpass, hexpanded, hcontext]
  rfl

/-- **A template of sound chunks prints what they print.**  Every segment is expanded, its chunk is
read back, and it prints a text. -/
theorem render_of_sound {options : RenderOptions} (hsub : options.subTemplates = .empty)
    (hpass : options.preProcess = none) {entries : List (String × Json)} {context : Node}
    (hcontext : session.context entries = .ok context) {template : List Char}
    {segments : List Segment} (hscan : scan template = .ok segments) {out : Segment → String}
    (hsegments : ∀ s ∈ segments,
      s.Expandable (options.fallback.getD session.fallback) (screen session.registry) ∧
        (s.chunk (options.fallback.getD session.fallback) (screen session.registry)).Sound ∧
        (s.chunk (options.fallback.getD session.fallback) (screen session.registry)).print?
          ⟨context, session.displayKey, []⟩ = some (out s)) :
    session.render (.object entries) template options = .ok (Text.concat (segments.map out)) := by
  obtain ⟨expanded, hexpanded, hread⟩ := readTemplate_of_scan hscan fun s hs => (hsegments s hs).1
  have hsound : ∀ c ∈ segments.map (Segment.chunk (options.fallback.getD session.fallback)
      (screen session.registry)), c.Sound := by
    intro c hc
    obtain ⟨s, hs, rfl⟩ := List.mem_map.mp hc
    exact (hsegments s hs).2.1
  have hprint := render_partsOf (mapM_print?_of_forall fun s hs => (hsegments s hs).2.2)
  rw [render_object hsub hpass hexpanded hcontext, renderTemplate, hread, read?_of_sound hsound]
  simp only [bind, Except.bind, hprint]
  rfl

/-- **A render is the direct evaluation of its segments.**  The template has text without an opening
brace and tags with a registered root, every fallback text leaves one kind of quotes free, and the
names that are declared are identifiers.  Then a render prints what the segments stand for, one
after another; only where a tag is misread the template is refused. -/
theorem render_eq_segmentText (hbuilt : ∀ schema, session.registry.Knows schema → schema.Built)
    (hreserves : ∀ schema, session.registry.Knows schema → schema.Reserves session.displayKey)
    (hnames : session.registry.Identifiers) {options : RenderOptions}
    (hsub : options.subTemplates = .empty) (hpass : options.preProcess = none)
    {entries : List (String × Json)} {context : Node}
    (hcontext : session.context entries = .ok context) {template : List Char}
    {segments : List Segment} (hscan : scan template = .ok segments)
    (haccepts : ∀ s ∈ segments, session.Accepts (options.fallback.getD session.fallback) s) :
    session.render (.object entries) template options =
      if segments.any session.misreadsSegment then .error (.template .parse)
      else .ok (Text.concat
        (segments.map (session.segmentText context (options.fallback.getD session.fallback)))) := by
  have hwritten := written_of_scan hscan
  obtain ⟨expanded, hexpanded, hread⟩ := readTemplate_of_scan hscan fun s hs =>
    expandable_of_accepts hbuilt hnames (hwritten s hs) (haccepts s hs)
  rw [render_object hsub hpass hexpanded hcontext, renderTemplate, hread]
  by_cases hmisreads : segments.any session.misreadsSegment = true
  · -- every chunk is read as it was meant or not at all, and the misread one is not
    have hall : ∀ c ∈ segments.map (Segment.chunk (options.fallback.getD session.fallback)
        (screen session.registry)), c.Sound ∨ c.Broken := by
      intro c hc
      obtain ⟨s, hs, rfl⟩ := List.mem_map.mp hc
      by_cases h : session.misreadsSegment s = true
      · exact Or.inr (broken_chunk hbuilt hnames (hwritten s hs) (haccepts s hs) h)
      · exact Or.inl (sound_chunk hbuilt hnames (hwritten s hs) (haccepts s hs) (by simpa using h))
    obtain ⟨s, hs, hmis⟩ := List.any_eq_true.mp hmisreads
    rw [if_pos hmisreads, read?_of_broken hall
      ⟨_, List.mem_map_of_mem hs, broken_chunk hbuilt hnames (hwritten s hs) (haccepts s hs) hmis⟩]
    rfl
  · have hall : ∀ c ∈ segments.map (Segment.chunk (options.fallback.getD session.fallback)
        (screen session.registry)), c.Sound := by
      intro c hc
      obtain ⟨s, hs, rfl⟩ := List.mem_map.mp hc
      refine sound_chunk hbuilt hnames (hwritten s hs) (haccepts s hs) ?_
      by_contra hnot
      exact hmisreads (List.any_eq_true.mpr ⟨s, hs, by simpa using hnot⟩)
    have hprint := render_partsOf (mapM_print?_chunk hbuilt hreserves hcontext haccepts)
    rw [if_neg hmisreads, read?_of_sound hall]
    simp only [bind, Except.bind, hprint]
    rfl

end AnyLibrary

/-! ## Two sessions -/

/-- A session with the kennel. -/
def kennelSession : Session := ⟨Registry.kennel, "shown", default⟩

theorem identifiers_kennel : Registry.kennel.Identifiers := by
  refine ⟨fun schema h => ?_, fun schema h field hfield => ?_⟩
  · rw [List.mem_singleton.mp h]
    decide +kernel
  · rcases Registry.knows_kennel h with rfl | rfl
    · rw [List.mem_singleton.mp hfield]
      decide +kernel
    · rw [List.mem_singleton.mp hfield]
      decide +kernel

theorem context_kennelSession :
    kennelSession.context
        [("user", .object [("dogs", .array [.object [("name", .string "Rex")]])])] =
      .ok (.record "shown" [("user", .record "shown"
        [("dogs", .list [.record "shown" [("name", .ofText "Rex")]])])]) := by
  have hlookup : Registry.kennel.lookup? "user" = some Registry.userSchema := by decide +kernel
  show (dumpRoots Registry.kennel "shown" _ >>= _) = _
  rw [dumpRoots]
  simp only [hlookup, Registry.dump_userSchema]
  rfl

/-- The segments of a template about dogs. -/
def dogSegments : List Segment :=
  [.text "Dog ".toList,
    .tag ⟨⟨"user", none⟩, [⟨"dogs", some 0⟩, ⟨"name", none⟩]⟩ "{user.dogs:1.name}".toList,
    .text ", ".toList,
    .tag ⟨⟨"user", none⟩, [⟨"dogs", some 1⟩, ⟨"name", none⟩]⟩ "{User.dogs:2.name}".toList,
    .tag ⟨⟨"user", none⟩, [⟨"cats", none⟩]⟩ "{user.cats}".toList]

/-- A user's first dog is rendered by its name, and whatever is not there by the fallback. -/
theorem render_of_dogs :
    kennelSession.render
        (.object [("user", .object [("dogs", .array [.object [("name", .string "Rex")]])])])
        "Dog {user.dogs:1.name}, {User.dogs:2.name}{user.cats}".toList
        { fallback := some (.literal "-") } =
      .ok "Dog Rex, --" := by
  have hscan : scan "Dog {user.dogs:1.name}, {User.dogs:2.name}{user.cats}".toList =
      .ok dogSegments := by
    decide +kernel
  have haccepts : ∀ s ∈ dogSegments, kennelSession.Accepts (.literal "-") s := by decide +kernel
  refine Eq.trans (render_eq_segmentText Registry.built_kennel Registry.reserves_kennel
    identifiers_kennel rfl rfl context_kennelSession hscan haccepts) ?_
  decide +kernel

/-- A schema whose name begins with a literal word. -/
def nillySchema : Schema := ⟨0, "Nilly", [⟨"a", .scalar⟩], none⟩

/-- A session with this schema. -/
def nillySession : Session := .make [nillySchema]

/-- The tag of its field. -/
def nillyTag : Segment := .tag ⟨⟨"nilly", none⟩, [⟨"a", none⟩]⟩ "{nilly.a}".toList

/-- The data in which this field is `x`. -/
def nillyContext : Node :=
  .record nillySession.displayKey
    [("nilly", .record nillySession.displayKey [("a", .ofText "x")])]

theorem knows_nillySession {schema : Schema} (h : nillySession.registry.Knows schema) :
    schema = nillySchema := by
  induction h with
  | registered hmem => exact List.mem_singleton.mp hmem
  | held _ hfield htarget ih =>
    rw [ih] at hfield
    rw [List.mem_singleton.mp hfield] at htarget
    exact absurd htarget (by simp [FieldKind.target?])

theorem context_nillySession :
    nillySession.context [("nilly", .object [("a", .string "x")])] = .ok nillyContext := by
  have hlookup : nillySession.registry.lookup? "nilly" = some nillySchema := by decide +kernel
  have hdump : nillySession.registry.dump nillySession.displayKey nillySchema
      (.object [("a", .string "x")]) =
        .ok (.record nillySession.displayKey [("a", .ofText "x")]) := by
    rw [Registry.dump]
    show ([(⟨"a", .scalar⟩ : Field)].mapM
      (nillySession.registry.dumpField _ nillySchema _) >>= _) = _
    rw [List.mapM_cons, Registry.dumpField_scalar rfl, List.mapM_nil]
    rfl
  show (dumpRoots nillySession.registry nillySession.displayKey _ >>= _) = _
  rw [dumpRoots]
  simp only [hlookup, hdump]
  rfl

/-- A tag can be refused where the direct evaluation gives the text of a field, although all names
are identifiers: the root `nilly` is read as `nil` and a rest. -/
theorem render_of_nilly :
    (∀ schema, nillySession.registry.Knows schema →
      schema.Built ∧ schema.Reserves nillySession.displayKey) ∧
    nillySession.registry.Identifiers ∧
    nillySession.context [("nilly", .object [("a", .string "x")])] = .ok nillyContext ∧
    scan "{nilly.a}".toList = .ok [nillyTag] ∧ nillySession.Accepts default nillyTag ∧
    nillySession.segmentText nillyContext default nillyTag = "x" ∧
    nillySession.render (.object [("nilly", .object [("a", .string "x")])]) "{nilly.a}".toList {} =
      .error (.template .parse) := by
  have hnames : nillySession.registry.Identifiers := by
    refine ⟨fun schema h => ?_, fun schema h field hfield => ?_⟩
    · rw [List.mem_singleton.mp h]
      decide +kernel
    · rw [knows_nillySession h] at hfield
      rw [List.mem_singleton.mp hfield]
      decide +kernel
  refine ⟨fun schema h => ?_, hnames, context_nillySession, by decide +kernel, by decide +kernel,
    by decide +kernel, ?_⟩
  · rw [knows_nillySession h]
    refine ⟨⟨0, ⟨"Nilly", nillySchema.fields, none⟩, by decide +kernel⟩, ?_⟩
    intro field hfield hkey
    rw [List.mem_singleton.mp hfield] at hkey
    exact absurd hkey (by decide +kernel)
  · have hexpanded : nillySession.expandWith default "{nilly.a}".toList =
        .ok "\x7b\x7bnilly.a | fallback: ''\x7d\x7d".toList := by
      decide +kernel
    refine Eq.trans (render_object rfl rfl hexpanded context_nillySession) ?_
    decide +kernel

end Session

end TagTemplates
