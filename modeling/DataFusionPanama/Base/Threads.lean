import Mathlib.Logic.Function.Basic
import DataFusionPanama.Base.Run

/-!
# DataFusionPanama.Base.Threads

Threads that share a state.  Every thread is at some point of its own
program (`pc`); one step is one thread doing the next atomic thing at its
point, and a schedule is any list of steps, so a run of `Threads.step` over
a list is any interleaving of any number of threads.

An invariant of the shared state and of every single thread is kept by a
step when the moving thread establishes it and the others do not lose it to
the change of the shared state: `Threads.forall_step`, the rule for proofs
by interference freedom.

`Stage` is what such proofs usually compare with when the threads share one
resource: it is given to at most one thread, which destroys it and then
says so.
-/

namespace DataFusionPanama

/-- A shared state, and the point every thread is at. -/
structure Threads (D σ π : Type) where
  shared : σ
  pc : D → π

namespace Threads

variable {D σ π ι : Type} [DecidableEq D] (exec : ι → σ → π → σ × π)

/-- A thread takes the step it is told to take. -/
def step (s : Threads D σ π) (move : D × ι) : Threads D σ π :=
  let r := exec move.2 s.shared (s.pc move.1)
  ⟨r.1, Function.update s.pc move.1 r.2⟩

variable {exec} {s : Threads D σ π} {d : D} {i : ι} {shared : σ} {pc : π}

/-- A step of one thread changes what is shared and its own place. -/
theorem step_eq (h : exec i s.shared (s.pc d) = (shared, pc)) :
    step exec s (d, i) = ⟨shared, Function.update s.pc d pc⟩ := by
  rw [step]
  simp only [h]

/-- The moving thread establishes the invariant, the others keep it. -/
theorem forall_step {P : D → π → Prop} {P' : D → π → Prop} (h : ∀ d, P d (s.pc d))
    (own : P' d pc) (others : ∀ d', d' ≠ d → P d' (s.pc d') → P' d' (s.pc d')) :
    ∀ d', P' d' (Function.update s.pc d pc d') :=
  (Function.forall_update_iff _ P').mpr ⟨own, fun d' hd => others d' hd (h d')⟩

/-- A thread that is alone runs its program like a sequential one. -/
theorem foldl_step_alone (is : List ι) :
    (is.map (d, ·)).foldl (step exec) s =
      let r := is.foldl (fun r i => exec i r.1 r.2) (s.shared, s.pc d)
      ⟨r.1, Function.update s.pc d r.2⟩ := by
  induction is generalizing s with
  | nil => simp
  | cons i is ih =>
      rw [List.map_cons, List.foldl_cons, ih, step, List.foldl_cons]
      simp only [Function.update_self, Function.update_idem]

end Threads

/-! ## a resource that is destroyed once -/

/-- The life of a resource that threads may get hold of: it is given to a
thread, which destroys it and announces that it is gone. -/
inductive Stage (D : Type) where
  | untouched
  | taken (d : D)
  | freed (d : D)
  | cleared
  deriving DecidableEq, Repr

namespace Stage

variable {D : Type} {stage : Stage D} {d d' : D}

/-- The thread that has it. -/
def owner : Stage D → Option D
  | .untouched | .cleared => none
  | .taken d | .freed d => some d

/-- How often it has been destroyed. -/
def frees : Stage D → Nat
  | .untouched | .taken _ => 0
  | .freed _ | .cleared => 1

/-- What the threads find where it is kept: `gone` once that has been
announced. -/
def found {α : Type} (x gone : α) : Stage D → α
  | .cleared => gone
  | _ => x

/-- Nothing is freed twice. -/
theorem frees_le_one (stage : Stage D) : stage.frees ≤ 1 := by
  cases stage <;> simp [frees]

/-- Until it is announced that the resource is gone, the threads find it. -/
theorem found_of_ne {α : Type} {x gone : α} (h : stage ≠ .cleared) : stage.found x gone = x := by
  cases stage <;> first | rfl | contradiction

@[simp] theorem owner_taken : (taken d : Stage D).owner = some d := rfl

@[simp] theorem owner_freed : (freed d : Stage D).owner = some d := rfl

@[simp] theorem owner_untouched : (untouched : Stage D).owner = none := rfl

@[simp] theorem owner_cleared : (cleared : Stage D).owner = none := rfl

end Stage

end DataFusionPanama
