import TagTemplates.Proofs.Attempts

/-!
# Attempts that agree

Two attempts agree when both fail, with whatever errors, or both succeed with results that are
related.  Attempts that are made step by step agree when their steps do.

* `Agree`: attempts that agree, with `Agree.of_eq`, `Agree.imp` and `Agree.trans`.
* `Agree.bind`, `Agree.map`: two steps, one after the other.
* `Agree.mapM`: one step for each item of two lists.
* `agree_mapM_of_perm`: one step for each item of a list and of a permutation of it.
-/

namespace TagTemplates

variable {ε α β γ δ : Type} {R : α → β → Prop}

/-- Both attempts fail, or both succeed with related results. -/
inductive Agree (R : α → β → Prop) : Except ε α → Except ε β → Prop where
  | error (e e' : ε) : Agree R (.error e) (.error e')
  | ok {a : α} {b : β} : R a b → Agree R (.ok a) (.ok b)

namespace Agree

variable {x : Except ε α} {y : Except ε β}

theorem of_eq {z : Except ε α} (h : x = z) : Agree (· = ·) x z := by
  subst h
  cases x with
  | error e => exact .error e e
  | ok a => exact .ok rfl

/-- The results may be related in another way as well. -/
theorem imp {R' : α → β → Prop} (h : Agree R x y)
    (himp : ∀ a b, x = .ok a → y = .ok b → R a b → R' a b) : Agree R' x y := by
  cases h with
  | error e e' => exact .error e e'
  | ok hab => exact .ok (himp _ _ rfl rfl hab)

theorem trans {S : β → γ → Prop} {T : α → γ → Prop} {z : Except ε γ} (hxy : Agree R x y)
    (hyz : Agree S y z) (h : ∀ a b c, R a b → S b c → T a c) : Agree T x z := by
  cases hxy with
  | error e e' =>
    cases hyz with
    | error e' e'' => exact .error e e''
  | ok hab =>
    cases hyz with
    | ok hbc => exact .ok (h _ _ _ hab hbc)

/-- Of two attempts that agree both fail, or both succeed. -/
theorem error_or_ok (h : Agree R x y) : (∃ e e', x = .error e ∧ y = .error e') ∨
    ∃ a b, x = .ok a ∧ y = .ok b ∧ R a b := by
  cases h with
  | error e e' => exact Or.inl ⟨e, e', rfl, rfl⟩
  | ok hab => exact Or.inr ⟨_, _, rfl, rfl, hab⟩

theorem bind {S : γ → δ → Prop} {f : α → Except ε γ} {g : β → Except ε δ} (h : Agree R x y)
    (hnext : ∀ a b, x = .ok a → y = .ok b → R a b → Agree S (f a) (g b)) :
    Agree S (x >>= f) (y >>= g) := by
  cases h with
  | error e e' => exact .error e e'
  | ok hab => exact hnext _ _ rfl rfl hab

theorem map {S : γ → δ → Prop} {f : α → γ} {g : β → δ} (h : Agree R x y)
    (hresult : ∀ a b, R a b → S (f a) (g b)) : Agree S (x.map f) (y.map g) := by
  cases h with
  | error e e' => exact .error e e'
  | ok hab => exact .ok (hresult _ _ hab)

/-- The items of two lists are treated with agreement when they are so one by one. -/
theorem mapM {P : γ → δ → Prop} {f : γ → Except ε α} {g : δ → Except ε β} {items : List γ}
    {others : List δ} (hitems : List.Forall₂ P items others)
    (h : ∀ item ∈ items, ∀ other, P item other → Agree R (f item) (g other)) :
    Agree (List.Forall₂ R) (items.mapM f) (others.mapM g) := by
  induction hitems with
  | nil => exact .ok .nil
  | @cons item other items others hitem _ ih =>
    have hrest := ih fun next hnext => h next (List.mem_cons_of_mem _ hnext)
    rw [List.mapM_cons, List.mapM_cons]
    refine (h item List.mem_cons_self other hitem).bind fun a b _ _ hab => ?_
    exact hrest.bind fun as bs _ _ hall => .ok (.cons hab hall)

end Agree

/-- The order in which items are treated does not matter for success. -/
theorem agree_mapM_of_perm (f : α → Except ε β) {items others : List α}
    (h : items.Perm others) : Agree List.Perm (items.mapM f) (others.mapM f) := by
  induction h with
  | nil => exact .ok .nil
  | cons item _ ih =>
    rw [List.mapM_cons, List.mapM_cons]
    refine (Agree.of_eq (x := f item) rfl).bind fun a b _ _ hab => ?_
    subst hab
    exact ih.bind fun as bs _ _ hperm => .ok (hperm.cons a)
  | swap item other items =>
    simp only [List.mapM_cons]
    cases f item with
    | error e =>
      cases f other with
      | error e' => exact .error e' e
      | ok b => exact .error e e
    | ok a =>
      cases f other with
      | error e' => exact .error e' e'
      | ok b =>
        cases items.mapM f with
        | error e => exact .error e e
        | ok as => exact .ok (.swap a b as)
  | trans _ _ ihfirst ihsecond => exact ihfirst.trans ihsecond fun _ _ _ => List.Perm.trans

end TagTemplates
