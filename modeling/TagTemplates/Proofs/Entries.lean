import Mathlib.Data.List.Nodup

/-!
# Entries that are found by their names

In a list of named entries a name stands for the first entry that has it.  Where no name is given
twice, that is whatever entry has it, so the order of the entries makes no difference.

* `find?_name_eq_some_iff`: what is found for a name that is given once.
* `find?_name_of_perm`: the same entries in another order.
-/

namespace TagTemplates

variable {α : Type} {entries others : List (String × α)}

/-- Where no name is given twice, a name stands for whatever entry has it. -/
theorem find?_name_eq_some_iff (h : (entries.map Prod.fst).Nodup) {name : String} {value : α} :
    (entries.find? fun e => e.1 == name).map (·.2) = some value ↔ (name, value) ∈ entries := by
  constructor
  · intro hfound
    obtain ⟨entry, hentry, rfl⟩ := Option.map_eq_some_iff.mp hfound
    have hname : entry.1 = name := by simpa using List.find?_some hentry
    subst hname
    exact List.mem_of_find?_eq_some hentry
  · intro hmem
    cases hfound : entries.find? fun e => e.1 == name with
    | none => exact absurd (List.find?_eq_none.mp hfound _ hmem) (by simp)
    | some entry =>
      have hname : entry.1 = name := by simpa using List.find?_some hfound
      have hentry : entry = (name, value) :=
        List.inj_on_of_nodup_map h (List.mem_of_find?_eq_some hfound) hmem hname
      rw [hentry]
      rfl

/-- **The order of entries does not matter** where no name is given twice. -/
theorem find?_name_of_perm (h : (entries.map Prod.fst).Nodup) (hperm : entries.Perm others)
    (name : String) : (entries.find? fun e => e.1 == name).map (·.2) =
      (others.find? fun e => e.1 == name).map (·.2) := by
  have hothers : (others.map Prod.fst).Nodup := (hperm.map Prod.fst).nodup_iff.mp h
  refine Option.ext fun value => ?_
  rw [find?_name_eq_some_iff h, find?_name_eq_some_iff hothers, hperm.mem_iff]

end TagTemplates
