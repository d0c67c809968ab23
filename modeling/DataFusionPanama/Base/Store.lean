/-!
# DataFusionPanama.Base.Store

Boxes with addresses.  A `Store` hands out a new non-null address for every
allocation and never hands out the same address twice, so an address is a
provenance: it names one allocation for the whole run, and a pointer kept
past the free names nothing.  (A real allocator reuses addresses; a stale
pointer that happens to hit a reused address is still stale here.)

Address `0` is null.  `free` of a dead address changes nothing, so whether
a free was the first one is visible in the ledger of the program that calls
it, not here.
-/

namespace DataFusionPanama

/-- An address: `0` is null. -/
abbrev Addr := Nat

/-- Boxes in the order of their allocation; a freed box leaves a hole. -/
structure Store (α : Type) where
  cells : List (Option α)
  deriving DecidableEq, Repr

namespace Store

variable {α : Type}

def empty : Store α := ⟨[]⟩

/-- The content of a live box. -/
def get? (s : Store α) : Addr → Option α
  | 0 => none
  | i + 1 => (s.cells[i]?).join

/-- The box at this address has been allocated and not freed. -/
def Live (s : Store α) (p : Addr) : Prop := (s.get? p).isSome

instance (s : Store α) (p : Addr) : Decidable (s.Live p) :=
  inferInstanceAs (Decidable ((s.get? p).isSome = true))

/-- Allocate a box: its address, and the store with it. -/
def alloc (s : Store α) (x : α) : Addr × Store α := (s.cells.length + 1, ⟨s.cells ++ [some x]⟩)

/-- Free a box. -/
def free (s : Store α) : Addr → Store α
  | 0 => s
  | i + 1 => ⟨s.cells.set i none⟩

/-- Overwrite the content of a live box; a dead address is left alone. -/
def put (s : Store α) (p : Addr) (x : α) : Store α :=
  if s.Live p then ⟨s.cells.set (p - 1) (some x)⟩ else s

/-! ## reading after an operation -/

@[simp] theorem get?_empty (p : Addr) : (empty : Store α).get? p = none := by
  cases p <;> simp [empty, get?]

@[simp] theorem get?_null (s : Store α) : s.get? 0 = none := rfl

/-- A live address has a value. -/
theorem live_iff {s : Store α} {p : Addr} : s.Live p ↔ ∃ x, s.get? p = some x :=
  Option.isSome_iff_exists

/-- The null address is not live. -/
theorem not_live_null (s : Store α) : ¬ s.Live 0 := by simp [Live]

/-- No allocation is at the null address. -/
@[simp] theorem alloc_ne_null (s : Store α) (x : α) : (s.alloc x).1 ≠ 0 := Nat.succ_ne_zero _

/-- Every live address is at most the number of allocations so far. -/
theorem le_of_live {s : Store α} {p : Nat} (h : s.Live p) : p ≤ s.cells.length := by
  cases p with
  | zero => exact Nat.zero_le _
  | succ i =>
      have hi : ¬ s.cells.length ≤ i := fun hn => by
        simp [Live, get?, List.getElem?_eq_none hn] at h
      exact Nat.lt_of_not_le hi

/-- The address handed out is not live before the allocation. -/
theorem not_live_alloc (s : Store α) (x : α) : ¬ s.Live (s.alloc x).1 := fun h => by
  have hle : s.cells.length + 1 ≤ s.cells.length := le_of_live h
  omega

/-- A new cell holds its value. -/
@[simp] theorem get?_alloc_self (s : Store α) (x : α) :
    (s.alloc x).2.get? (s.alloc x).1 = some x := by
  simp [alloc, get?]

/-- An allocation leaves the other cells. -/
theorem get?_alloc_of_ne {s : Store α} {x : α} {p : Addr} (h : p ≠ (s.alloc x).1) :
    (s.alloc x).2.get? p = s.get? p := by
  cases p with
  | zero => rfl
  | succ i =>
      have hi : i ≠ s.cells.length := fun he => h (by simp [alloc, he])
      rcases Nat.lt_or_gt_of_ne hi with hlt | hgt
      · simp [alloc, get?, List.getElem?_append_left hlt]
      · simp [alloc, get?, List.getElem?_append_right (Nat.le_of_lt hgt),
          List.getElem?_eq_none (Nat.le_of_lt hgt), show i - s.cells.length ≠ 0 by omega]

/-- Nothing is behind the address handed out before the allocation. -/
theorem get?_alloc_fst (s : Store α) (x : α) : s.get? (s.alloc x).1 = none := by
  cases h : s.get? (s.alloc x).1 with
  | none => rfl
  | some y => exact absurd (live_iff.mpr ⟨y, h⟩) (not_live_alloc s x)

/-- A box that is live keeps its content through an allocation. -/
theorem get?_alloc_of_some {s : Store α} {x y : α} {p : Addr} (h : s.get? p = some y) :
    (s.alloc x).2.get? p = some y := by
  rw [get?_alloc_of_ne, h]
  intro hp
  exact not_live_alloc s x (hp ▸ live_iff.mpr ⟨y, h⟩)

/-- A freed cell holds nothing. -/
@[simp] theorem get?_free_self (s : Store α) (p : Addr) : (s.free p).get? p = none := by
  cases p with
  | zero => rfl
  | succ i =>
      simp only [free, get?, List.getElem?_set_self']
      cases s.cells[i]? <;> rfl

/-- A free leaves the other cells. -/
theorem get?_free_of_ne {s : Store α} {p q : Addr} (h : q ≠ p) :
    (s.free p).get? q = s.get? q := by
  cases p with
  | zero => rfl
  | succ i =>
      cases q with
      | zero => rfl
      | succ j =>
          have hij : i ≠ j := fun he => h (by rw [he])
          simp [free, get?, List.getElem?_set_ne hij]

/-- A cell that is there holds what is written. -/
theorem get?_put_self {s : Store α} {p : Addr} {x y : α} (h : s.get? p = some y) :
    (s.put p x).get? p = some x := by
  have hl : s.Live p := live_iff.mpr ⟨y, h⟩
  cases p with
  | zero => simp at h
  | succ i =>
      have hi := le_of_live hl
      rw [put, if_pos hl]
      simp [get?, List.getElem?_set_self (Nat.lt_of_succ_le hi)]

/-- A write leaves the other cells. -/
theorem get?_put_of_ne {s : Store α} {p q : Addr} {x : α} (h : q ≠ p) :
    (s.put p x).get? q = s.get? q := by
  unfold put
  split
  · next hl =>
    cases p with
    | zero => exact absurd hl (not_live_null s)
    | succ i =>
        cases q with
        | zero => rfl
        | succ j =>
            have hij : i ≠ j := fun he => h (by rw [he])
            simp [get?, List.getElem?_set_ne hij]
  · rfl

/-- Overwriting a dead address does nothing. -/
theorem put_of_none {s : Store α} {p : Addr} {x : α} (h : s.get? p = none) : s.put p x = s := by
  rw [put, if_neg (by simp [Live, h])]

/-- Overwriting a box with its content does nothing. -/
theorem put_of_get? {s : Store α} {p : Addr} {x : α} (h : s.get? p = some x) : s.put p x = s := by
  cases p with
  | zero => simp at h
  | succ i =>
      have hi : s.cells[i]? = some (some x) := Option.join_eq_some_iff.mp h
      obtain ⟨hlt, hget⟩ := List.getElem?_eq_some_iff.mp hi
      rw [put, if_pos (live_iff.mpr ⟨x, h⟩)]
      rw [← hget]
      exact congrArg Store.mk (List.set_getElem_self hlt)

/-- `put` neither frees nor allocates. -/
theorem live_put {s : Store α} {p q : Addr} {x : α} : (s.put p x).Live q ↔ s.Live q := by
  cases h : s.get? p with
  | none => rw [put_of_none h]
  | some y =>
      by_cases hq : q = p
      · subst hq
        simp [Live, get?_put_self h, h]
      · simp [Live, get?_put_of_ne hq]

/-- The next address depends on the allocations only. -/
@[simp] theorem length_cells_free (s : Store α) (p : Addr) :
    (s.free p).cells.length = s.cells.length := by
  cases p <;> simp [free]

@[simp] theorem length_cells_put (s : Store α) (p : Addr) (x : α) :
    (s.put p x).cells.length = s.cells.length := by
  unfold put
  split <;> simp

@[simp] theorem length_cells_alloc (s : Store α) (x : α) :
    (s.alloc x).2.cells.length = s.cells.length + 1 := by
  simp [alloc]

end Store

end DataFusionPanama
