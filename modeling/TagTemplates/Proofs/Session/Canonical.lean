import TagTemplates.Proofs.Registry.Canonical
import TagTemplates.Proofs.Session.Rendering

/-!
# Canonical paths in tags

The canonical path of a tag is written down and read again: templates hold it once they are expanded,
and authors see it where a path is shown.  It means what the tag means, and it is its own canonical
path.  Written as a tag it comes back, unless the tag has the one index that cannot be written: counted
from one, it is larger than any number that is read.

* `exists_readTag_canonical_iff`, `readTag_canonical`: the canonical path, read from its tag.
* `screen_of_lookup`: the path of a look-up is looked up by itself.
* `canonical_stable`: all of it, for every tag that resolves.
* `canonical_of_unwritable`: a tag that resolves to a canonical path no reader takes.
-/

namespace TagTemplates

namespace Session

variable {registry : Registry} {path found : Path} {r : Resolution}

/-! ## The tag of a canonical path -/

/-- The indices of a path are those of its canonical path. -/
theorem forall_indexFits_canonical_iff (h : registry.resolveTag path = .ok r) :
    (∀ s ∈ r.canonical.steps, s.IndexFits) ↔ ∀ s ∈ path.steps, s.IndexFits := by
  obtain ⟨-, -, hsteps, -, -⟩ := Registry.resolveTag_eq_ok_iff.mp h
  rw [Registry.steps_canonical, List.forall_mem_cons]
  constructor
  · rintro ⟨-, hfits⟩ s hs
    rcases Registry.mem_of_accepts ⟨path, rfl, h⟩ s hs with ⟨hindex, -⟩ | hbelow
    · exact Step.indexFits_of_index_eq_none hindex
    · exact hfits s hbelow
  · intro hfits
    refine ⟨Step.indexFits_of_index_eq_none rfl, fun s hs => hfits s ?_⟩
    rw [hsteps] at hs
    exact List.mem_cons_of_mem path.root (Registry.mem_of_mem_stepsBelow hs)

/-- The names of a canonical path can be written. -/
theorem run_name_canonical (hbuilt : ∀ schema, registry.Knows schema → schema.Built)
    (h : registry.resolveTag path = .ok r) :
    ∀ s ∈ r.canonical.steps, Run Text.isNameChar s.name.toList :=
  Registry.run_name_of_accepts hbuilt ⟨r.canonical, rfl, Registry.resolveTag_canonical h⟩

/-- **A canonical path is read from its tag when the indices fit**, and not otherwise. -/
theorem exists_readTag_canonical_iff (hbuilt : ∀ schema, registry.Knows schema → schema.Built)
    (h : registry.resolveTag path = .ok r) :
    (∃ read, Path.readTag r.canonical.tag = .ok read) ↔ ∀ s ∈ path.steps, s.IndexFits :=
  (exists_readTag_tag_iff (run_name_canonical hbuilt h)).trans (forall_indexFits_canonical_iff h)

/-- The canonical path of what was read from a text is read from its tag as itself. -/
theorem readTag_canonical (hbuilt : ∀ schema, registry.Knows schema → schema.Built)
    (h : registry.resolveTag path = .ok r) (hpath : path.WellFormed) :
    Path.readTag r.canonical.tag = .ok r.canonical := by
  have hnames := run_name_canonical hbuilt h
  have hfits := (forall_indexFits_canonical_iff h).mpr fun s hs => (hpath s hs).index
  refine readTag_tag_of_wellFormed fun s hs => ?_
  refine Step.wellFormed_of_run (hnames s hs) ?_ (hfits s hs)
  obtain ⟨-, -, hsteps, -, -⟩ := Registry.resolveTag_eq_ok_iff.mp h
  rw [Registry.steps_canonical] at hs
  rcases List.mem_cons.mp hs with rfl | hbelow
  · exact Text.fold_fold r.root.name
  · rw [hsteps] at hbelow
    have hmem := List.mem_cons_of_mem path.root (Registry.mem_of_mem_stepsBelow hbelow)
    exact (hpath s hmem).fold_name

/-! ## Expansion -/

/-- **The path of a look-up is looked up by itself.** -/
theorem screen_of_lookup (hroot : (registry.lookup? path.root.name).isSome = true)
    (h : screen registry path = .lookup found) : screen registry found = .lookup found := by
  rcases screen_cases hroot with ⟨hscreen, -⟩ | ⟨r, hresolve, hthrough, hscreen⟩
  · exact absurd (h.symm.trans hscreen) (by simp)
  · obtain rfl : found = r.canonical := Expansion.lookup.inj (h.symm.trans hscreen)
    have hcanonical := Registry.resolveTag_canonical hresolve
    obtain ⟨-, hlookup, -⟩ := Registry.resolveTag_eq_ok_iff.mp hcanonical
    exact screen_of_resolved (by rw [hlookup]; rfl) hcanonical hthrough

/-- **Canonical paths are stable.**  The canonical path of a tag resolves to what the tag resolves
to: the same root, the same endpoint, the same flag and the same canonical path.  As a tag it is read
exactly when the indices of the tag fit, and the canonical path of what was read from a text is read
as itself.  A look-up of a registered root is looked up by its own path again. -/
theorem canonical_stable (hbuilt : ∀ schema, registry.Knows schema → schema.Built) :
    (∀ path r, registry.resolveTag path = .ok r →
      registry.resolveTag r.canonical = .ok r ∧
        ((∃ read, Path.readTag r.canonical.tag = .ok read) ↔ ∀ s ∈ path.steps, s.IndexFits) ∧
        (path.WellFormed → Path.readTag r.canonical.tag = .ok r.canonical)) ∧
      ∀ path found, (registry.lookup? path.root.name).isSome = true →
        screen registry path = .lookup found → screen registry found = .lookup found := by
  refine ⟨fun path r h => ⟨Registry.resolveTag_canonical h, ?_, ?_⟩, fun path found => ?_⟩
  · exact exists_readTag_canonical_iff hbuilt h
  · exact readTag_canonical hbuilt h
  · exact screen_of_lookup

/-- The first dog of a user, with the root written twice, is `user.dogs:1` in canonical form. -/
theorem canonical_stable_of_dogs :
    Path.readTag "\x7buser.dogs:1\x7d".toList = .ok ⟨⟨"user", none⟩, [⟨"dogs", some 0⟩]⟩ ∧
      screen Registry.kennel ⟨⟨"user", none⟩, [⟨"dogs", some 0⟩]⟩ =
        .lookup ⟨⟨"user", none⟩, [⟨"dogs", some 0⟩]⟩ := by
  obtain ⟨htags, hlookups⟩ := canonical_stable Registry.built_kennel
  obtain ⟨-, -, hread⟩ := htags ⟨⟨"user", none⟩, [⟨"user", none⟩, ⟨"dogs", some 0⟩]⟩
    ⟨Registry.userSchema, [⟨"dogs", some 0⟩], .record Registry.dogSchema, false⟩ (by decide +kernel)
  have htag : Path.tag ⟨⟨"user", none⟩, [⟨"dogs", some 0⟩]⟩ = "\x7buser.dogs:1\x7d".toList := by
    decide +kernel
  have hcanonical : Step.make "User" = ⟨"user", none⟩ := by decide +kernel
  have hfound := hread (by decide +kernel)
  rw [Resolution.canonical] at hfound
  refine ⟨?_, hlookups ⟨⟨"user", none⟩, [⟨"user", none⟩, ⟨"dogs", some 0⟩]⟩ _ (by decide +kernel)
    (by decide +kernel)⟩
  rw [← htag]
  exact hcanonical ▸ hfound

/-- The last dog that a number can count is resolved, and its canonical path cannot be read. -/
theorem canonical_of_unwritable :
    let last : Path := ⟨⟨"user", none⟩, [⟨"dogs", some 4294967295⟩]⟩
    Registry.kennel.resolveTag last =
        .ok ⟨Registry.userSchema, [⟨"dogs", some 4294967295⟩], .record Registry.dogSchema, false⟩ ∧
      last.tag = "\x7buser.dogs:4294967296\x7d".toList ∧
      ∀ read, Path.readTag last.tag ≠ .ok read := by
  intro last
  have hresolve : Registry.kennel.resolveTag last =
      .ok ⟨Registry.userSchema, [⟨"dogs", some 4294967295⟩], .record Registry.dogSchema, false⟩ := by
    decide +kernel
  have hcanonical : (Resolution.mk Registry.userSchema [⟨"dogs", some 4294967295⟩]
      (.record Registry.dogSchema) false).canonical = last := by
    decide +kernel
  refine ⟨hresolve, by decide +kernel, fun read hread => ?_⟩
  have hfits := (exists_readTag_canonical_iff Registry.built_kennel hresolve).mp
    ⟨read, by rw [hcanonical]; exact hread⟩
  have hlarge := hfits ⟨"dogs", some 4294967295⟩ (by simp [last, Path.steps]) 4294967295 rfl
  exact absurd hlarge (by decide)

end Session

end TagTemplates
