/-!
# DataFusionPanama.Base.Prog

Stateful computations that may stop early.  `Prog σ ε` is the standard
stack `ExceptT ε (StateM σ)`: a fault keeps the state changes made before
it, exactly like a Rust body that panics half-way or a Java method that
throws.  `exec` runs a computation, and the `exec_*` equations let a proof
step through a `do` block without ever unfolding the transformers.

`Keeps R` is a frame condition: every run takes the state to an `R`-related
one, however it ends.  It composes along `>>=` for a preorder `R`, so a
frame condition of a long body is read off its parts.
-/

namespace DataFusionPanama

/-- A stateful computation that may stop with a fault. -/
abbrev Prog (σ ε α : Type) := ExceptT ε (StateM σ) α

namespace Prog

variable {σ ε α β : Type}

/-- Run a computation from a state. -/
def exec (x : Prog σ ε α) (s : σ) : Except ε α × σ := (ExceptT.run x).run s

/-- Look at the state, and possibly stop. -/
def reads (f : σ → Except ε α) : Prog σ ε α := fun s => (f s, s)

/-- Replace the state by a function of it, returning a value. -/
def updates (f : σ → α × σ) : Prog σ ε α := fun s => (.ok (f s).1, (f s).2)

/-- Translate the fault a computation stops with. -/
def mapError {ε' : Type} (f : ε → ε') (x : Prog σ ε α) : Prog σ ε' α :=
  fun s => ((exec x s).1.mapError f, (exec x s).2)

/-- Run a computation on a part of the state. -/
def zoom {τ : Type} (get : σ → τ) (set : τ → σ → σ) (x : Prog τ ε α) : Prog σ ε α :=
  fun s => ((exec x (get s)).1, set (exec x (get s)).2 s)

@[simp] theorem exec_pure (a : α) (s : σ) : exec (pure a : Prog σ ε α) s = (.ok a, s) := rfl

@[simp] theorem exec_throw (e : ε) (s : σ) : exec (throw e : Prog σ ε α) s = (.error e, s) := rfl

@[simp] theorem exec_reads (f : σ → Except ε α) (s : σ) : exec (reads f) s = (f s, s) := rfl

@[simp] theorem exec_updates (f : σ → α × σ) (s : σ) :
    exec (updates f : Prog σ ε α) s = (.ok (f s).1, (f s).2) := rfl

/-- Only the error is mapped. -/
@[simp] theorem exec_mapError {ε' : Type} (f : ε → ε') (x : Prog σ ε α) (s : σ) :
    exec (mapError f x) s = ((exec x s).1.mapError f, (exec x s).2) := rfl

/-- A program on a part of the state. -/
@[simp] theorem exec_zoom {τ : Type} (get : σ → τ) (set : τ → σ → σ) (x : Prog τ ε α) (s : σ) :
    exec (zoom get set x) s = ((exec x (get s)).1, set (exec x (get s)).2 s) := rfl

/-- Sequencing: the second computation starts where the first one stopped. -/
theorem exec_bind (x : Prog σ ε α) (f : α → Prog σ ε β) (s : σ) :
    exec (x >>= f) s = match exec x s with
      | (.ok a, s') => exec (f a) s'
      | (.error e, s') => (.error e, s') := by
  simp only [exec, ExceptT.run_bind, StateT.run_bind]
  change (match (ExceptT.run x).run s with | (r, s') => _) = _
  rcases h : (ExceptT.run x).run s with ⟨r, s'⟩
  cases r <;> rfl

/-- Sequencing after a success. -/
theorem exec_bind_ok {x : Prog σ ε α} {f : α → Prog σ ε β} {s s' : σ} {a : α}
    (h : exec x s = (.ok a, s')) : exec (x >>= f) s = exec (f a) s' := by
  rw [exec_bind, h]

/-- Sequencing after a fault. -/
theorem exec_bind_error {x : Prog σ ε α} {f : α → Prog σ ε β} {s s' : σ} {e : ε}
    (h : exec x s = (.error e, s')) : exec (x >>= f) s = (.error e, s') := by
  rw [exec_bind, h]

/-! ## frame conditions -/

/-- Every run of the computation takes the state to a related one, however
it ends.  For a reflexive and transitive relation this is closed under
sequencing. -/
def Keeps (R : σ → σ → Prop) (x : Prog σ ε α) : Prop := ∀ s, R s (exec x s).2

section Keeps

variable {R : σ → σ → Prop}

/-- A value keeps what is reflexive. -/
theorem Keeps.pure (hr : ∀ s, R s s) (a : α) : Keeps R (pure a : Prog σ ε α) := hr

/-- So does a read. -/
theorem Keeps.reads (hr : ∀ s, R s s) (f : σ → Except ε α) : Keeps R (reads f) := hr

/-- An update keeps what it keeps of every state. -/
theorem Keeps.updates {f : σ → α × σ} (hf : ∀ s, R s (f s).2) :
    Keeps R (updates f : Prog σ ε α) := hf

/-- What is transitive is kept by one program after another. -/
theorem Keeps.bind (ht : ∀ {a b c}, R a b → R b c → R a c) {x : Prog σ ε α}
    {f : α → Prog σ ε β} (hx : Keeps R x) (hf : ∀ a, Keeps R (f a)) : Keeps R (x >>= f) := by
  intro s
  have hs := hx s
  rw [exec_bind]
  rcases h : exec x s with ⟨r, s'⟩
  rw [h] at hs
  cases r with
  | error e => exact hs
  | ok a => exact ht hs (hf a s')

/-- A fault may be translated. -/
theorem Keeps.mapError {ε' : Type} {x : Prog σ ε α} (hx : Keeps R x) (f : ε → ε') :
    Keeps R (x.mapError f) := hx

/-- What is kept of a part of the state. -/
theorem Keeps.zoom {τ : Type} {S : τ → τ → Prop} {get : σ → τ} {set : τ → σ → σ} {x : Prog τ ε α}
    (hset : ∀ t s, S (get s) t → R s (set t s)) (hx : Keeps S x) : Keeps R (x.zoom get set) :=
  fun s => hset _ s (hx (get s))

end Keeps

end Prog

end DataFusionPanama
