import TagTemplates.Proofs.Dump.LetterCase
import TagTemplates.Proofs.Dump.Walk
import TagTemplates.Proofs.Template.LetterCase
import TagTemplates.Session

/-!
# The case of letters in a session

Names are compared without regard to the case of ASCII letters wherever they come from: the tags of
a template, a bare path, a text that is completed and the names of a filter, and the keys of data.

* `Registry.complete_foldChars`: completing a folded text.
* `resolvePath_of_foldChars_eq`: resolving paths that differ in the case of letters.
* `Session.letterCase_irrelevant`: everything that a session answers.
-/

namespace TagTemplates

/-- The readers of bare paths and of whole texts agree on what is a path. -/
theorem read_of_foldChars_eq {cs ds : List Char} (h : Text.foldChars cs = Text.foldChars ds)
    (path : Path) : Path.read cs = .ok path ↔ Path.read ds = .ok path := by
  rw [read_eq_ok_iff, read_eq_ok_iff]
  rcases readPath_of_foldChars_eq h with ⟨found, hcs, hds⟩ | ⟨f, g, hcs, hds, -⟩
  · rw [hcs, hds]
  · rw [hcs, hds]
    exact ⟨nofun, nofun⟩

/-- The names of a filter are folded when it is made. -/
theorem RootFilter.make_of_map_fold_eq {only only' exclude exclude' : List String}
    (honly : only.map Text.fold = only'.map Text.fold)
    (hexclude : exclude.map Text.fold = exclude'.map Text.fold) :
    make only exclude = make only' exclude' := by
  rw [make, make, honly, hexclude]

/-- **A folded text is completed as the text.** -/
theorem Registry.complete_foldChars (registry : Registry) (filter : RootFilter)
    (fragment : List Char) :
    registry.complete filter (Text.foldChars fragment) = registry.complete filter fragment := by
  rw [complete, complete]
  simp only [Text.trim_foldChars, Text.isEmpty_foldChars, readPartial_foldChars]

namespace Session

variable (session : Session)

/-- **Paths that differ in the case of letters resolve to the same**, or neither resolves. -/
theorem resolvePath_of_foldChars_eq {path other : List Char}
    (h : Text.foldChars path = Text.foldChars other) (r : Resolution) :
    session.resolvePath path = .ok r ↔ session.resolvePath other = .ok r := by
  have hread := read_of_foldChars_eq h
  have hmeans : ∀ cs : List Char, session.resolvePath cs = .ok r ↔
      ∃ path, Path.read cs = .ok path ∧ session.registry.resolveTag path = .ok r := by
    intro cs
    rw [resolvePath]
    cases Path.read cs with
    | error e => simp
    | ok path =>
      simp only [mapError_eq_ok_iff]
      constructor
      · intro hresolve
        exact ⟨path, rfl, hresolve⟩
      · rintro ⟨found, hfound, hresolve⟩
        obtain rfl : path = found := Except.ok.inj hfound
        exact hresolve
  rw [hmeans, hmeans]
  simp only [hread]

/-- **The case of ASCII letters never matters.**  Templates that differ in it inside tags are
expanded alike, by themselves and in a session.  Paths that differ in it resolve to the same, and
texts and filters that differ in it are completed to the same.  Data whose keys differ in it are
dumped alike through every schema, as long as no templates are involved and no object has two keys
that are equal up to case. -/
theorem letterCase_irrelevant [Liquid.Library] :
    (∀ text other, CaseInTags text other → ∀ fallback,
      SameOutcome (TagTemplates.expand fallback text) (TagTemplates.expand fallback other) ∧
        SameOutcome (session.expandWith fallback text) (session.expandWith fallback other)) ∧
    (∀ path other, Text.foldChars path = Text.foldChars other →
      ∀ r, session.resolvePath path = .ok r ↔ session.resolvePath other = .ok r) ∧
    (∀ fragment other only only' exclude exclude',
      Text.foldChars fragment = Text.foldChars other →
      only.map Text.fold = only'.map Text.fold → exclude.map Text.fold = exclude'.map Text.fold →
        session.registry.complete (RootFilter.make only exclude) fragment =
          session.registry.complete (RootFilter.make only' exclude') other) ∧
    ∀ schema v w, session.registry.TemplateFree schema → v.keysApart = true → v.Recased w →
      AlikeNodes (session.registry.dump session.displayKey schema v)
        (session.registry.dump session.displayKey schema w) := by
  refine ⟨fun text other h fallback => ⟨?_, ?_⟩, fun path other => ?_, ?_, ?_⟩
  · exact expandWith_of_caseInTags fallback .lookup h
  · exact expandWith_of_caseInTags fallback (screen session.registry) h
  · exact session.resolvePath_of_foldChars_eq
  · intro fragment other only only' exclude exclude' hfragment honly hexclude
    rw [RootFilter.make_of_map_fold_eq honly hexclude, ← Registry.complete_foldChars, hfragment,
      Registry.complete_foldChars]
  · exact fun schema v w hfree hapart hrecased => Registry.dump_alike hfree hapart hrecased

/-- The dogs of a user, in capital letters and in small ones. -/
theorem letterCase_irrelevant_of_dogs :
    let session : Session := ⟨Registry.kennel, "shown", .echo⟩
    let loud : Json := .object [("DOGS", .array [.object [("NAME", .string "Rex")]])]
    let quiet : Json := .object [("dogs", .array [.object [("name", .string "Rex")]])]
    SameOutcome (session.expandWith .echo ('{' :: ("USER.dogs:1.Name".toList ++ '}' :: ['!'])))
        (session.expandWith .echo ('{' :: ("user.Dogs:1.NAME".toList ++ '}' :: ['!']))) ∧
      (∀ r, session.resolvePath "User.DOGS:1".toList = .ok r ↔
        session.resolvePath "user.dogs:1".toList = .ok r) ∧
      session.registry.complete (RootFilter.make ["USER"] []) "User.D".toList =
        session.registry.complete (RootFilter.make ["user"] []) "user.d".toList ∧
      AlikeNodes (session.registry.dump session.displayKey Registry.userSchema loud)
        (session.registry.dump session.displayKey Registry.userSchema quiet) := by
  intro session loud quiet
  obtain ⟨htemplates, hpaths, hfragments, hdata⟩ := letterCase_irrelevant session
  have htag : TagText "USER.dogs:1.Name".toList :=
    ⟨⟨rfl, List.all_eq_true.mp rfl⟩, rfl⟩
  have hfree : Registry.kennel.TemplateFree Registry.userSchema := by
    refine .of_knows (.registered List.mem_cons_self) fun met hmet => ?_
    rcases Registry.knows_kennel hmet with rfl | rfl
    · exact List.forall_mem_singleton.mpr rfl
    · exact List.forall_mem_singleton.mpr rfl
  have hrex : (Json.object [("NAME", .string "Rex")]).Recased (.object [("name", .string "Rex")]) :=
    .object (by decide) (.cons (.string "Rex") .nil) (List.Perm.refl _)
  have hrecased : loud.Recased quiet :=
    .object (by decide) (.cons (.array (.cons hrex .nil)) .nil) (List.Perm.refl _)
  refine ⟨(htemplates _ _ (.tag htag (by decide) (.char '!' .nil)) .echo).2,
    hpaths _ _ (by decide), hfragments _ _ _ _ _ _ (by decide) (by decide) rfl,
    hdata _ _ _ hfree (by decide) hrecased⟩

end Session

end TagTemplates
