import Mathlib.Data.List.Forall2

/-!
# Attempts that succeed

A computation with a possible error is written in steps.  What its success says about the steps is
stated here once.

* `bind_eq_ok_iff`: two steps, one after the other.
* `map_eq_ok_iff`, `map_eq_error_iff`, `mapError_eq_ok_iff`: a step and what is made of its result
  or its error, with `map_map_of_forall` for two things made of it one after the other.
* `mapM_eq_ok_iff`: one step for each item of a list, with `getElem?_of_mapM_eq_ok` and
  `exists_mem_of_mapM_eq_ok` for single items, and `mapM_forall₂` and `mapM_congr` for two lists.
* `mapM_id_eq_ok_iff`, `mapM_id_eq_error_iff`: a list of attempts that are made already.
-/

namespace TagTemplates

variable {ε α β : Type}

theorem bind_eq_ok_iff {x : Except ε α} {f : α → Except ε β} {b : β} :
    (x >>= f) = .ok b ↔ ∃ a, x = .ok a ∧ f a = .ok b := by
  cases x with
  | error e =>
    constructor
    · intro h
      exact absurd h (by simp [bind, Except.bind])
    · rintro ⟨a, ha, -⟩
      exact absurd ha (by simp)
  | ok a =>
    constructor
    · intro h
      exact ⟨a, rfl, h⟩
    · rintro ⟨a', ha, h⟩
      obtain rfl : a = a' := Except.ok.inj ha
      exact h

theorem map_eq_ok_iff {x : Except ε α} {f : α → β} {b : β} :
    x.map f = .ok b ↔ ∃ a, x = .ok a ∧ f a = b := by
  cases x with
  | error e => simp [Except.map]
  | ok a => simp [Except.map]

theorem map_eq_error_iff {x : Except ε α} {f : α → β} {e : ε} :
    x.map f = .error e ↔ x = .error e := by
  cases x with
  | error e' => simp [Except.map]
  | ok a => simp [Except.map]

/-- What is made of a result in two steps may be made in one. -/
theorem map_map_of_forall {γ : Type} {f : α → β} {g : β → γ} {k : α → γ} (h : ∀ a, g (f a) = k a)
    (x : Except ε α) : (x.map f).map g = x.map k := by
  cases x with
  | error e => rfl
  | ok a => exact congrArg Except.ok (h a)

theorem map_of_forall {f : α → α} (h : ∀ a, f a = a) (x : Except ε α) : x.map f = x := by
  cases x with
  | error e => rfl
  | ok a => exact congrArg Except.ok (h a)

/-- An attempt succeeds as before when its error is put in other words. -/
theorem mapError_eq_ok_iff {ε' : Type} {x : Except ε α} {f : ε → ε'} {a : α} :
    x.mapError f = .ok a ↔ x = .ok a := by
  cases x with
  | error e =>
    constructor
    · intro h
      have herror : (Except.error (f e) : Except ε' α) = .ok a := h
      exact nomatch herror
    · intro h
      exact nomatch h
  | ok b =>
    constructor
    · intro h
      have hok : (Except.ok b : Except ε' α) = .ok a := h
      exact congrArg Except.ok (Except.ok.inj hok)
    · intro h
      obtain rfl : b = a := Except.ok.inj h
      rfl

/-- A list is treated successfully when each of its items is. -/
theorem mapM_eq_ok_iff {f : α → Except ε β} : ∀ {as : List α} {bs : List β},
    as.mapM f = .ok bs ↔ List.Forall₂ (fun a b => f a = .ok b) as bs
  | [], bs => by
    rw [List.mapM_nil, List.forall₂_nil_left_iff]
    exact ⟨fun h => (Except.ok.inj h).symm, fun h => h ▸ rfl⟩
  | a :: as, bs => by
    rw [List.mapM_cons, bind_eq_ok_iff, List.forall₂_cons_left_iff]
    constructor
    · rintro ⟨b, hb, hrest⟩
      obtain ⟨bs', hbs, hcons⟩ := bind_eq_ok_iff.mp hrest
      exact ⟨b, bs', hb, mapM_eq_ok_iff.mp hbs, (Except.ok.inj hcons).symm⟩
    · rintro ⟨b, bs', hb, hbs, rfl⟩
      exact ⟨b, hb, bind_eq_ok_iff.mpr ⟨bs', mapM_eq_ok_iff.mpr hbs, rfl⟩⟩

/-- Lists are treated successfully and with related results when their items are. -/
theorem mapM_forall₂ {γ δ : Type} {R : β → δ → Prop} {f : α → Except ε β} {g : γ → Except ε δ}
    {as : List α} {cs : List γ}
    (h : List.Forall₂ (fun a c => ∃ b d, f a = .ok b ∧ g c = .ok d ∧ R b d) as cs) :
    ∃ bs ds, as.mapM f = .ok bs ∧ cs.mapM g = .ok ds ∧ List.Forall₂ R bs ds := by
  induction h with
  | nil => exact ⟨[], [], rfl, rfl, .nil⟩
  | cons hitem _ ih =>
    obtain ⟨b, d, hb, hd, hbd⟩ := hitem
    obtain ⟨bs, ds, hbs, hds, hrest⟩ := ih
    refine ⟨b :: bs, d :: ds, ?_, ?_, .cons hbd hrest⟩
    · rw [List.mapM_cons, hb, hbs]
      rfl
    · rw [List.mapM_cons, hd, hds]
      rfl

/-- Lists are treated alike when their items are. -/
theorem mapM_congr {f g : α → Except ε β} : ∀ {as : List α}, (∀ a ∈ as, f a = g a) →
    as.mapM f = as.mapM g
  | [], _ => rfl
  | a :: as, h => by
    obtain ⟨ha, has⟩ := List.forall_mem_cons.mp h
    rw [List.mapM_cons, List.mapM_cons, ha, mapM_congr has]

/-- The item at a position is treated successfully, and its result stands there. -/
theorem getElem?_of_mapM_eq_ok {f : α → Except ε β} {as : List α} {bs : List β}
    (h : as.mapM f = .ok bs) (i : Nat) :
    (as[i]? = none ∧ bs[i]? = none) ∨ ∃ a b, as[i]? = some a ∧ bs[i]? = some b ∧ f a = .ok b := by
  have hall := mapM_eq_ok_iff.mp h
  clear h
  induction hall generalizing i with
  | nil => exact Or.inl ⟨rfl, rfl⟩
  | @cons a b as bs hab _ ih =>
    cases i with
    | zero => exact Or.inr ⟨a, b, rfl, rfl, hab⟩
    | succ i => exact ih i

/-- Of two lists that are related item by item, each item of the first has its partner in the
second. -/
theorem exists_mem_of_forall₂ {R : α → β → Prop} {as : List α} {bs : List β}
    (h : List.Forall₂ R as bs) {a : α} (ha : a ∈ as) : ∃ b ∈ bs, R a b := by
  induction h with
  | nil => exact absurd ha List.not_mem_nil
  | @cons a' b as bs hab _ ih =>
    rcases List.mem_cons.mp ha with rfl | hmem
    · exact ⟨b, List.mem_cons_self, hab⟩
    · obtain ⟨b', hb', hr⟩ := ih hmem
      exact ⟨b', List.mem_cons_of_mem b hb', hr⟩

theorem exists_mem_of_mapM_eq_ok {f : α → Except ε β} {as : List α} {bs : List β}
    (h : as.mapM f = .ok bs) {a : α} (ha : a ∈ as) : ∃ b ∈ bs, f a = .ok b :=
  exists_mem_of_forall₂ (mapM_eq_ok_iff.mp h) ha

/-- Attempts that are made already succeed together when each of them has succeeded. -/
theorem mapM_id_eq_ok_iff {attempts : List (Except ε α)} {results : List α} :
    attempts.mapM id = .ok results ↔ attempts = results.map Except.ok := by
  rw [mapM_eq_ok_iff, ← List.forall₂_eq_eq_eq, List.forall₂_map_right_iff]
  rfl

/-- Attempts that are made already fail together with the error of the first that has failed. -/
theorem mapM_id_eq_error_iff {e : ε} : ∀ {attempts : List (Except ε α)},
    attempts.mapM id = .error e ↔
      ∃ (results : List α) (behind : List (Except ε α)),
        attempts = results.map Except.ok ++ .error e :: behind
  | [] => by
    constructor
    · intro h
      exact nomatch h
    · rintro ⟨results, behind, h⟩
      exact absurd h (by simp)
  | .error e' :: attempts => by
    rw [List.mapM_cons]
    constructor
    · intro h
      obtain rfl : e' = e := Except.error.inj h
      exact ⟨[], attempts, rfl⟩
    · rintro ⟨results, behind, h⟩
      cases results with
      | nil =>
        obtain rfl : e' = e := Except.error.inj (List.cons.inj h).1
        rfl
      | cons result results => exact nomatch (List.cons.inj h).1
  | .ok a :: attempts => by
    have hbind : (Except.ok a :: attempts).mapM id = .error e ↔ attempts.mapM id = .error e := by
      rw [List.mapM_cons]
      cases attempts.mapM id with
      | error e' => exact Iff.rfl
      | ok results =>
        constructor
        · intro h
          exact nomatch h
        · intro h
          exact nomatch h
    rw [hbind, mapM_id_eq_error_iff]
    constructor
    · rintro ⟨results, behind, rfl⟩
      exact ⟨a :: results, behind, rfl⟩
    · rintro ⟨results, behind, h⟩
      cases results with
      | nil => exact nomatch (List.cons.inj h).1
      | cons result results => exact ⟨results, behind, (List.cons.inj h).2⟩

end TagTemplates
