import Mathlib.Logic.Function.Basic

/-!
# DataFusionPanama.Base.Binding

Variables in two worlds: bound to handles in the one, to values in the
other.  `Tracks R` says that the same variables are bound, to a handle and
a value related by `R`, and that no two variables share a handle.  The
second part is what makes a change behind one handle a change of one
variable: `Tracks.change` and `Tracks.drop` ask of `R` only that it survive
the change at every other handle.

`Mirrors R` is the same of two lists that grow together: what is at an index
on the one side is related to what is there on the other.
-/

namespace DataFusionPanama

variable {α β : Type} {R R' : α → β → Prop} {vars : Nat → Option α} {values : Nat → Option β}

structure Tracks (R : α → β → Prop) (vars : Nat → Option α) (values : Nat → Option β) : Prop where
  rel : ∀ i, Option.Rel R (vars i) (values i)
  distinct : ∀ {i j a}, vars i = some a → vars j = some a → i = j

namespace Tracks

/-- No variable is bound. -/
theorem empty : Tracks R (fun _ => none) fun _ => none :=
  ⟨fun _ => .none, fun h => by cases h⟩

/-- A bound variable has a value. -/
theorem value (h : Tracks R vars values) {i : Nat} {a : α} (hi : vars i = some a) :
    ∃ b, values i = some b ∧ R a b := by
  have hrel := h.rel i
  rw [hi] at hrel
  cases hv : values i with
  | none => rw [hv] at hrel; cases hrel
  | some b => rw [hv] at hrel; exact ⟨b, rfl, Option.rel_some_some.mp hrel⟩

/-- A variable that is not bound has none. -/
theorem value_none (h : Tracks R vars values) {i : Nat} (hi : vars i = none) : values i = none := by
  have hrel := h.rel i
  rw [hi] at hrel
  cases hv : values i with
  | none => rfl
  | some b => rw [hv] at hrel; cases hrel

/-- Nothing changes behind the bound handles. -/
theorem imp (h : Tracks R vars values)
    (hR : ∀ i a b, vars i = some a → R a b → R' a b) : Tracks R' vars values where
  rel i := by
    cases hi : vars i with
    | none => rw [h.value_none hi]; exact .none
    | some a =>
        obtain ⟨b, hb, hab⟩ := h.value hi
        rw [hb]
        exact .some (hR i a b hi hab)
  distinct := h.distinct

/-- A variable is bound to a new handle. -/
theorem bind (h : Tracks R vars values) (x : Nat) {a : α} {b : β} (hR : R a b)
    (hfresh : ∀ i, vars i ≠ some a) :
    Tracks R (Function.update vars x (some a)) (Function.update values x (some b)) where
  rel i := by
    by_cases hi : i = x
    · subst hi
      simpa using hR
    · rw [Function.update_of_ne hi, Function.update_of_ne hi]
      exact h.rel i
  distinct {i j c} hi hj := by
    by_cases hix : i = x <;> by_cases hjx : j = x
    · rw [hix, hjx]
    · subst hix
      rw [Function.update_self, Option.some.injEq] at hi
      rw [Function.update_of_ne hjx, ← hi] at hj
      exact absurd hj (hfresh j)
    · subst hjx
      rw [Function.update_self, Option.some.injEq] at hj
      rw [Function.update_of_ne hix, ← hj] at hi
      exact absurd hi (hfresh i)
    · rw [Function.update_of_ne hix] at hi
      rw [Function.update_of_ne hjx] at hj
      exact h.distinct hi hj

/-- A variable is forgotten. -/
theorem unbind (h : Tracks R vars values) (x : Nat) :
    Tracks R (Function.update vars x none) (Function.update values x none) where
  rel i := by
    by_cases hi : i = x
    · subst hi
      simp
    · rw [Function.update_of_ne hi, Function.update_of_ne hi]
      exact h.rel i
  distinct {i j c} hi hj := by
    have hne : ∀ {k}, Function.update vars x none k = some c → vars k = some c := fun {k} hk => by
      by_cases hkx : k = x
      · rw [hkx, Function.update_self] at hk
        cases hk
      · rwa [Function.update_of_ne hkx] at hk
    exact h.distinct (hne hi) (hne hj)

/-- Something changes behind the handle of a variable. -/
theorem change (h : Tracks R vars values) {x : Nat} {a : α} {b : β} (hx : vars x = some a)
    (hR : ∀ a' b', a' ≠ a → R a' b' → R' a' b') (hb : R' a b) :
    Tracks R' vars (Function.update values x (some b)) where
  rel i := by
    by_cases hi : i = x
    · subst hi
      rw [hx, Function.update_self]
      exact .some hb
    · rw [Function.update_of_ne hi]
      cases hv : vars i with
      | none => rw [h.value_none hv]; exact .none
      | some a' =>
          obtain ⟨b', hb', hab⟩ := h.value hv
          rw [hb']
          exact .some (hR a' b' (fun he => hi (h.distinct (he ▸ hv) hx)) hab)
  distinct := h.distinct

/-- The handle of a variable is given up with the variable. -/
theorem drop (h : Tracks R vars values) {x : Nat} {a : α} (hx : vars x = some a)
    (hR : ∀ a' b', a' ≠ a → R a' b' → R' a' b') :
    Tracks R' (Function.update vars x none) (Function.update values x none) := by
  refine (h.unbind x).imp fun i a' b' hi hab => hR a' b' (fun he => ?_) hab
  by_cases hix : i = x
  · rw [hix, Function.update_self] at hi
    cases hi
  · rw [Function.update_of_ne hix, he] at hi
    exact hix (h.distinct hi hx)

end Tracks

/-! ## lists -/

/-- Looking into a list that has grown by one. -/
theorem getElem?_concat {γ : Type} (l : List γ) (a : γ) (i : Nat) :
    (l ++ [a])[i]? = if i = l.length then some a else l[i]? := by
  rcases Nat.lt_trichotomy i l.length with hlt | rfl | hgt
  · rw [List.getElem?_append_left hlt, if_neg (Nat.ne_of_lt hlt)]
  · rw [List.getElem?_concat_length, if_pos rfl]
  · rw [List.getElem?_eq_none (by simpa using Nat.succ_le_of_lt hgt), if_neg (Nat.ne_of_gt hgt),
      List.getElem?_eq_none (Nat.le_of_lt hgt)]

/-- Two lists of one length, related index by index. -/
def Mirrors (R : α → β → Prop) (l : List α) (l' : List β) : Prop :=
  ∀ i : Nat, Option.Rel R l[i]? l'[i]?

namespace Mirrors

variable {l : List α} {l' : List β} {i : Nat} {a : α} {b : β}

theorem nil : Mirrors R [] [] := fun _ => by simp

/-- An element has its counterpart at the same place. -/
theorem get (h : Mirrors R l l') (hi : l[i]? = some a) : ∃ b, l'[i]? = some b ∧ R a b := by
  have hrel := h i
  rw [hi] at hrel
  cases hb : l'[i]? with
  | none => rw [hb] at hrel; cases hrel
  | some b => rw [hb] at hrel; exact ⟨b, rfl, Option.rel_some_some.mp hrel⟩

/-- Where there is no element there is no counterpart. -/
theorem get_none (h : Mirrors R l l') (hi : l[i]? = none) : l'[i]? = none := by
  have hrel := h i
  rw [hi] at hrel
  cases hb : l'[i]? with
  | none => rfl
  | some b => rw [hb] at hrel; cases hrel

/-- Both lists are equally long. -/
theorem length_eq (h : Mirrors R l l') : l.length = l'.length := by
  refine Nat.le_antisymm ?_ ?_
  · by_contra hlt
    have hi := h l'.length
    rw [List.getElem?_eq_none (Nat.le_refl _),
      List.getElem?_eq_getElem (Nat.lt_of_not_le hlt)] at hi
    cases hi
  · exact List.getElem?_eq_none_iff.mp (h.get_none (List.getElem?_eq_none (Nat.le_refl _)))

/-- Nothing changes at any index. -/
theorem imp (h : Mirrors R l l') (hR : ∀ (i : Nat) a b, l[i]? = some a → R a b → R' a b) :
    Mirrors R' l l' := by
  intro i
  cases hi : l[i]? with
  | none => rw [h.get_none hi]; exact .none
  | some a =>
      obtain ⟨b, hb, hab⟩ := h.get hi
      rw [hb]
      exact .some (hR i a b hi hab)

/-- Both sides grow. -/
theorem append (h : Mirrors R l l') (hab : R a b) : Mirrors R (l ++ [a]) (l' ++ [b]) := by
  intro i
  rw [getElem?_concat, getElem?_concat, h.length_eq]
  split
  · exact .some hab
  · exact h i

/-- Something changes at one index, which may leave a trace at the others. -/
theorem set (h : Mirrors R l l')
    (hR : ∀ (j : Nat) a' b', j ≠ i → l[j]? = some a' → R a' b' → R' a' b')
    (hab : i < l.length → R' a b) : Mirrors R' (l.set i a) (l'.set i b) := by
  intro j
  by_cases hij : j = i
  · subst hij
    by_cases hlt : j < l.length
    · rw [List.getElem?_set_self hlt, List.getElem?_set_self (h.length_eq ▸ hlt)]
      exact .some (hab hlt)
    · rw [List.getElem?_eq_none (by simpa using hlt),
        List.getElem?_eq_none (by simpa [← h.length_eq] using hlt)]
      exact .none
  · rw [List.getElem?_set_ne (Ne.symm hij), List.getElem?_set_ne (Ne.symm hij)]
    cases hj : l[j]? with
    | none => rw [h.get_none hj]; exact .none
    | some a' =>
        obtain ⟨b', hb', hab'⟩ := h.get hj
        rw [hb']
        exact .some (hR j a' b' hij hj hab')

end Mirrors

end DataFusionPanama
