import Mathlib.Data.List.Basic

/-!
# DataFusionPanama.Base.Pick

A part of a list under its own numbering.  A mask says which entries of a
list belong to the part; `rank` is the number such an entry has in the part,
and `Picks R` relates the entries of the part to those of a second list, one
by one and in their order.  Both lists may change at a marked entry, and grow
by one; an unmarked entry is free to change, and the first list to grow by
more of them (`Picks.spare`).
-/

namespace DataFusionPanama

variable {α β : Type} {R R' : α → β → Prop} {mask : List Bool} {xs xs' : List α} {ys : List β}
  {a : α} {b : β} {i : Nat} {touched : Nat → Prop}

/-- What is kept of two related values. -/
theorem rel_filter {p : α → Bool} {q : β → Bool} {x : Option α} {y : Option β}
    (h : Option.Rel R x y) (hpq : ∀ a b, R a b → p a = q b) :
    Option.Rel R (x.filter p) (y.filter q) := by
  cases h with
  | none => exact .none
  | @some a b hab =>
      have hq := hpq a b hab
      cases hp : p a <;> simp [Option.filter, hp, ← hq, hab]

/-- The number of an entry in the part. -/
def rank (mask : List Bool) (i : Nat) : Nat := (mask.take i).count true

@[simp] theorem rank_zero : rank mask 0 = 0 := by simp [rank]

@[simp] theorem rank_true_succ : rank (true :: mask) (i + 1) = rank mask i + 1 := by simp [rank]

@[simp] theorem rank_false_succ : rank (false :: mask) (i + 1) = rank mask i := by simp [rank]

/-- An entry keeps its number when the list grows. -/
theorem rank_rightpad (hi : mask[i]? = some true) (n : Nat) (mark : Bool) :
    rank (mask.rightpad n mark) i = rank mask i := by
  have hlt := (List.getElem?_eq_some_iff.mp hi).1
  rw [rank, rank, List.rightpad, List.take_append_of_le_length (Nat.le_of_lt hlt)]

/-- Padding leaves the marks that are there. -/
theorem getElem?_rightpad (hi : mask[i]? = some true) (n : Nat) (mark : Bool) :
    (mask.rightpad n mark)[i]? = some true := by
  rw [List.rightpad, List.getElem?_append_left (List.getElem?_eq_some_iff.mp hi).1, hi]

/-- There is nothing to pad. -/
theorem rightpad_length (mark : Bool) : mask.rightpad mask.length mark = mask := by
  simp [List.rightpad]

/-- There is one place to pad. -/
theorem rightpad_succ (mark : Bool) : mask.rightpad (mask.length + 1) mark = mask ++ [mark] := by
  simp [List.rightpad]

/-- A list has grown, and changed at no other place than these. -/
structure Touched (touched : Nat → Prop) (xs xs' : List α) : Prop where
  length : xs.length ≤ xs'.length
  same : ∀ i, i < xs.length → ¬ touched i → xs'[i]? = xs[i]?

namespace Touched

/-- Nothing has been touched. -/
theorem refl : Touched touched xs xs := ⟨Nat.le_refl _, fun _ _ _ => rfl⟩

/-- A new element touches none. -/
theorem concat (h : Touched touched xs xs') (a : α) : Touched touched xs (xs' ++ [a]) where
  length := Nat.le_trans h.length (by simp)
  same i hi hit := by
    rw [List.getElem?_append_left (Nat.lt_of_lt_of_le hi h.length), h.same i hi hit]

/-- One element has been touched. -/
theorem set (hi : touched i) (a : α) : Touched touched xs (xs.set i a) where
  length := by simp
  same j _ hj := List.getElem?_set_ne fun h : i = j => hj (h ▸ hi)

end Touched

/-- The marked entries of the first list are those of the second. -/
inductive Picks (R : α → β → Prop) : List Bool → List α → List β → Prop
  | nil : Picks R [] [] []
  | keep {m : List Bool} {xs : List α} {ys : List β} {a : α} {b : β} :
      R a b → Picks R m xs ys → Picks R (true :: m) (a :: xs) (b :: ys)
  | skip {m : List Bool} {xs : List α} {ys : List β} (a : α) :
      Picks R m xs ys → Picks R (false :: m) (a :: xs) ys

namespace Picks

/-- There is a mark for every place. -/
theorem length (h : Picks R mask xs ys) : mask.length = xs.length := by
  induction h with
  | nil => rfl
  | keep _ _ ih => simp [ih]
  | skip _ _ ih => simp [ih]

/-- A marked element has its counterpart at its rank. -/
theorem get (h : Picks R mask xs ys) (hi : mask[i]? = some true) :
    ∃ a b, xs[i]? = some a ∧ ys[rank mask i]? = some b ∧ R a b := by
  induction h generalizing i with
  | nil => simp at hi
  | keep hab _ ih =>
      cases i with
      | zero => exact ⟨_, _, rfl, by simp, hab⟩
      | succ i => simpa using ih (by simpa using hi)
  | skip _ _ ih =>
      cases i with
      | zero => simp at hi
      | succ i => simpa using ih (by simpa using hi)

/-- What is at a marked place, if anything, and at its rank. -/
theorem rel (h : Picks R mask xs ys) (hi : mask[i]? = some true) :
    Option.Rel R xs[i]? ys[rank mask i]? := by
  obtain ⟨a, b, ha, hb, hab⟩ := h.get hi
  rw [ha, hb]
  exact .some hab

/-- Nothing changes, but what is said of the entries. -/
theorem imp (h : Picks R mask xs ys) (hR : ∀ a b, R a b → R' a b) : Picks R' mask xs ys := by
  induction h with
  | nil => exact .nil
  | keep hab _ ih => exact .keep (hR _ _ hab) ih
  | skip a _ ih => exact .skip a ih

/-- A marked entry changes. -/
theorem set (h : Picks R mask xs ys) (hi : mask[i]? = some true) (hab : R a b) :
    Picks R mask (xs.set i a) (ys.set (rank mask i) b) := by
  induction h generalizing i with
  | nil => simp at hi
  | keep hcd h ih =>
      cases i with
      | zero => simpa using .keep hab h
      | succ i => simpa using .keep hcd (ih (by simpa using hi))
  | skip c _ ih =>
      cases i with
      | zero => simp at hi
      | succ i => simpa using .skip c (ih (by simpa using hi))

/-- Nothing has been made, so nothing is to be marked. -/
theorem stay (h : Picks R mask xs ys) (mark : Bool) :
    Picks R (mask.rightpad xs.length mark) xs ys := by
  rwa [← h.length, rightpad_length]

/-- A marked element and its counterpart have been made. -/
theorem concat (h : Picks R mask xs ys) (hab : R a b) :
    Picks R (mask ++ [true]) (xs ++ [a]) (ys ++ [b]) := by
  induction h with
  | nil => exact .keep hab .nil
  | keep hcd _ ih => exact .keep hcd ih
  | skip c _ ih => exact .skip c ih

/-- The list grows by a marked entry. -/
theorem grow (h : Picks R mask xs ys) (hab : R a b) :
    Picks R (mask.rightpad (xs ++ [a]).length true) (xs ++ [a]) (ys ++ [b]) := by
  rw [List.length_append, List.length_singleton, ← h.length, rightpad_succ]
  exact h.concat hab

/-- **The marked entries are spared**, whatever becomes of the others and
whatever is added. -/
theorem spare (h : Picks R mask xs ys) (ht : Touched touched xs xs')
    (hsame : ∀ i, mask[i]? = some true → touched i → xs'[i]? = xs[i]?) :
    Picks R (mask.rightpad xs'.length false) xs' ys := by
  have hall : ∀ i : Nat, mask[i]? = some true → xs'[i]? = xs[i]? := fun i hi => by
    by_cases hit : touched i
    · exact hsame i hi hit
    · exact ht.same i (h.length ▸ (List.getElem?_eq_some_iff.mp hi).1) hit
  have hlength := ht.length
  clear ht hsame
  induction h generalizing xs' with
  | nil =>
      clear hlength hall
      induction xs' with
      | nil => exact .nil
      | cons a xs' ih => exact .skip a ih
  | keep hab _ ih =>
      cases xs' with
      | nil => simp at hlength
      | cons c xs' =>
          have hc : c = _ := Option.some.inj (hall 0 rfl)
          have hrest := ih (fun i hi => hall (i + 1) hi) (by simpa using hlength)
          simpa [List.rightpad, hc] using .keep hab hrest
  | skip _ _ ih =>
      cases xs' with
      | nil => simp at hlength
      | cons c xs' =>
          have hrest := ih (fun i hi => hall (i + 1) hi) (by simpa using hlength)
          simpa [List.rightpad] using .skip c hrest

end Picks

end DataFusionPanama
