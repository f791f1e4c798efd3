import TagTemplates.Proofs.Session.Rendering
import TagTemplates.Proofs.Template.Expanded

/-!
# Expansion in a session

A session screens the tags of a template by its registry, and else expands it as any template.  So
the laws of expansion hold with every registry: what follows a text does not change what it is
expanded to, and what is expanded holds no tag.

* `named_canonical`, `named_screen`: a screened tag looks up names again.
* `goesOnBehind_expand`: expansion goes on behind a text.
* `expand_leaves_no_tag`: expanding twice is expanding once, and the templates that stay as they
  are.
-/

namespace TagTemplates

namespace Session

variable {registry : Registry} {path : Path}

/-! ## Screened tags -/

/-- The canonical path of a tag is made of names. -/
theorem named_canonical (h : path.Named) {r : Resolution}
    (hresolve : registry.resolveTag path = .ok r) : r.canonical.Named := by
  obtain ⟨-, hroot, hsteps, -, -⟩ := Registry.resolveTag_eq_ok_iff.mp hresolve
  rw [Path.Named, Registry.steps_canonical, hsteps]
  refine List.forall_mem_cons.mpr ⟨fun c hc => ?_, fun s hs => ?_⟩
  · obtain ⟨-, hkey⟩ := Registry.mem_of_lookup?_eq_some hroot
    have hfold : c ∈ (Text.fold path.root.name).toList := hkey ▸ hc
    rw [Text.toList_fold, Text.foldChars, List.mem_map] at hfold
    obtain ⟨d, hd, rfl⟩ := hfold
    exact (Text.isNameChar_toLower_iff d).mpr (h path.root List.mem_cons_self d hd)
  · exact h s (List.mem_cons_of_mem _ (Registry.mem_of_mem_stepsBelow hs))

/-- What a tag is screened to looks up a path of names. -/
theorem named_screen (registry : Registry) (h : path.Named) : (screen registry path).Named := by
  by_cases hroot : (registry.lookup? path.root.name).isSome = true
  · rcases screen_cases hroot with ⟨hscreen, -⟩ | ⟨r, hresolve, -, hscreen⟩
    · rw [hscreen]
      trivial
    · rw [hscreen]
      exact named_canonical h hresolve
  · rw [screen, Option.not_isSome_iff_eq_none.mp hroot]
    exact h

/-! ## Laws of expansion -/

/-- **Expansion is local.**  A text that can be expanded and does not end in a brace is expanded
alike in front of any other text, and this one is expanded, or refused at its own place, as if it
stood alone: with every fallback, and with every registry. -/
theorem goesOnBehind_expand (fallback : Fallback) {text : List Char}
    (hlast : text.getLast? ≠ some '{') (more : List Char) :
    (∀ expanded, TagTemplates.expand fallback text = .ok expanded →
        GoesOnBehind (TagTemplates.expand fallback) text expanded more) ∧
      ∀ (session : Session) expanded, session.expandWith fallback text = .ok expanded →
        GoesOnBehind (session.expandWith fallback) text expanded more :=
  ⟨fun _ h => goesOnBehind_expandWith h hlast more,
    fun _ _ h => goesOnBehind_expandWith h hlast more⟩

/-- A fault behind a text that takes more bytes than characters. -/
theorem goesOnBehind_expand_of_index :
    let text := "é {user.dogs:1.name}".toList
    let more := ", {user.dogs:0}".toList
    let expanded := "é \x7b\x7buser.dogs[0].name | fallback: '-'\x7d\x7d".toList
    text.getLast? ≠ some '{' ∧ kennelSession.expandWith (.literal "-") text = .ok expanded ∧
      kennelSession.expandWith (.literal "-") more = .error (.tag ⟨13, .nonPositiveIndex⟩) ∧
      kennelSession.expandWith (.literal "-") (text ++ more) =
        .error (.tag ⟨34, .nonPositiveIndex⟩) := by
  intro text more expanded
  have hlast : text.getLast? ≠ some '{' := by decide
  have htext : kennelSession.expandWith (.literal "-") text = .ok expanded := by decide +kernel
  have hmore : kennelSession.expandWith (.literal "-") more =
      .error (.tag ⟨13, .nonPositiveIndex⟩) := by decide +kernel
  obtain ⟨-, hsession⟩ := goesOnBehind_expand (.literal "-") hlast more
  exact ⟨hlast, htext, hmore, (hsession kennelSession expanded htext).tag _ _ hmore⟩

/-- **Expansion leaves no tag behind.**  With a literal fallback without an opening brace, what has
been expanded stays as it is when it is expanded once more, with or without a registry.  With any
fallback, a template stays as it is exactly when it has no tag. -/
theorem expand_leaves_no_tag (template : List Char) :
    (∀ text : String, '{' ∉ text.toList →
      (∀ expanded, TagTemplates.expand (.literal text) template = .ok expanded →
        TagTemplates.expand (.literal text) expanded = .ok expanded) ∧
      ∀ (session : Session) expanded, session.expandWith (.literal text) template = .ok expanded →
        session.expandWith (.literal text) expanded = .ok expanded) ∧
    ∀ fallback : Fallback,
      (TagTemplates.expand fallback template = .ok template ↔ WithoutTags template) ∧
      ∀ session : Session,
        session.expandWith fallback template = .ok template ↔ WithoutTags template := by
  refine ⟨fun text htext => ⟨fun expanded h => ?_, fun session expanded h => ?_⟩,
    fun fallback => ⟨expandWith_eq_self_iff, fun session => expandWith_eq_self_iff⟩⟩
  · exact expandWith_expandWith (fun path hpath => hpath) (fun _ => htext) h
  · exact expandWith_expandWith (fun path hpath => named_screen session.registry hpath)
      (fun _ => htext) h

/-- Braces that stand next to expanded tags. -/
theorem expand_leaves_no_tag_of_braces :
    let template := "\x7b{user.dogs:1.name}{user.cats}{b}\x7b".toList
    let expanded := "\x7b\x7b\x7buser.dogs[0].name | fallback: '-'\x7d\x7d".toList ++
      "\x7b\x7b '-' \x7d\x7d\x7b\x7bb | fallback: '-'\x7d\x7d\x7b".toList
    '{' ∉ "-".toList ∧ kennelSession.expandWith (.literal "-") template = .ok expanded ∧
      kennelSession.expandWith (.literal "-") expanded = .ok expanded ∧
      ¬WithoutTags template ∧ WithoutTags expanded := by
  intro template expanded
  have hbrace : '{' ∉ "-".toList := by decide
  have htemplate : kennelSession.expandWith (.literal "-") template = .ok expanded := by
    decide +kernel
  have hagain : kennelSession.expandWith (.literal "-") expanded = .ok expanded :=
    ((expand_leaves_no_tag template).1 "-" hbrace).2 kennelSession expanded htemplate
  have hiff := fun text => ((expand_leaves_no_tag text).2 (.literal "-")).2 kennelSession
  refine ⟨hbrace, htemplate, hagain, fun hnone => ?_, (hiff expanded).mp hagain⟩
  have hsame := htemplate.symm.trans ((hiff template).mpr hnone)
  exact absurd (Except.ok.inj hsame) (by decide)

end Session

end TagTemplates
