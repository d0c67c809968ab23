import DataFusionPanama.Base.Threads
import DataFusionPanama.Java.Api

/-!
# DataFusionPanama.Java.Closing

One runtime or session wrapper in the hands of many threads.  Its `close()`
reads the field three times (twice in the condition, once as the argument
of the native free), frees the object and clears the field, with nothing to
keep another thread from doing the same in between.

No interleaving makes `close()` throw (`calm_run`).  The object is freed at
most once as long as no thread reads the uncleared field as its argument
while another one stands between its own argument and its clearing of the
field (`Undisputed`): such a run is one `Stage` after the other.  A single
step that breaks this is enough for a double free
(`frees_twice_of_disputed`).
-/

namespace DataFusionPanama

/-- The two wrapper classes that close themselves like this. -/
inductive Closeable where
  | runtime | session
  deriving DecidableEq, Repr

namespace Closeable

variable {T : Types}

def kind : Closeable → Kind
  | .runtime => .runtime
  | .session => .session

/-- `RUNTIME_FREE` and `SESSION_FREE` -/
def free : Closeable → Addr → Native T → Native T
  | .runtime => runtimeFree
  | .session => sessionFree

def failure : Closeable → String
  | .runtime => "failed to free runtime"
  | .session => "failed to free session"

/-- What a wrapper of the class holds. -/
abbrev Object (c : Closeable) (T : Types) := { o : Obj T // o.kind = c.kind }

/-- A free drops the box behind the pointer, if there is one. -/
theorem free_eq (c : Closeable) (p : Addr) (n : Native T) :
    c.free p n = if p = 0 then n else n.unbox c.kind p := by
  cases c <;> rfl

end Closeable

namespace Closing

variable {T : Types} {D : Type}

/-! ## the steps of `close()` -/

/-- The `pointer` field of the wrapper, `none` being Java's `null`. -/
structure Wrapper (T : Types) where
  pointer : Option Addr
  native : Native T

/-- What a thread does next. -/
inductive Pc where
  | idle
  /-- `pointer != null` -/
  | checkNull
  /-- `!pointer.equals(MemorySegment.NULL)` -/
  | checkClosed
  /-- Read `pointer` as the argument of the free. -/
  | argument
  /-- `invokeExact(p)` -/
  | freeing (p : Addr)
  /-- `pointer = MemorySegment.NULL` -/
  | clearing
  /-- `close()` throws. -/
  | threw (t : Throwable)

/-- The thread has read its argument and not cleared the field yet. -/
def Pc.Freeing : Pc → Prop
  | .freeing _ | .clearing => True
  | _ => False

/-- A thread starts a `close()`, or takes the next step of the one it is in. -/
inductive Move where
  | close | next
  deriving DecidableEq, Repr

def exec (c : Closeable) : Move → Wrapper T → Pc → Wrapper T × Pc
  | .close, w, .idle => (w, .checkNull)
  | .next, w, .checkNull => (w, if w.pointer.isNone then .idle else .checkClosed)
  | .next, w, .checkClosed =>
      match w.pointer with
      | none => (w, .threw .nullPointerException)
      | some 0 => (w, .idle)
      | some _ => (w, .argument)
  | .next, w, .argument =>
      match w.pointer with
      | none => (w, .threw (.assertionError c.failure .nullPointerException))
      | some p => (w, .freeing p)
  | .next, w, .freeing p => ({ w with native := c.free p w.native }, .clearing)
  | .next, w, .clearing => ({ w with pointer := some 0 }, .idle)
  | .next, w, .threw _ => (w, .idle)
  | _, w, pc => (w, pc)

abbrev Shared (D : Type) (T : Types) := Threads D (Wrapper T) Pc

abbrev step [DecidableEq D] (c : Closeable) : Shared D T → D × Move → Shared D T :=
  Threads.step (exec c)

/-- A wrapper just made for a new object.  The trace begins there. -/
def opened (n : Native T) (o : Obj T) : Shared D T where
  shared := ⟨some n.next, { n with trace := [] }.box o⟩
  pc _ := .idle

/-! ## alone -/

/-- A whole `close()`. -/
def closeMoves : List Move := [.close, .next, .next, .next, .next, .next]

/-- What a thread without company does in `close()`. -/
theorem close_alone [DecidableEq D] (c : Closeable) (s : Shared D T) (d : D) (p : Addr)
    (hpc : s.pc d = .idle) (hp : s.shared.pointer = some p) :
    (closeMoves.map (d, ·)).foldl (step c) s =
      ⟨⟨some 0, c.free p s.shared.native⟩, s.pc⟩ := by
  obtain ⟨⟨pointer, native⟩, pc⟩ := s
  dsimp only at hpc hp
  subst hp
  rw [Threads.foldl_step_alone]
  simp only [hpc]
  cases p with
  | zero =>
      change (⟨⟨some 0, native⟩, Function.update pc d .idle⟩ : Shared D T) = _
      rw [← hpc, Function.update_eq_self, c.free_eq, if_pos rfl]
  | succ p =>
      change (⟨⟨some 0, c.free (p + 1) native⟩, Function.update pc d .idle⟩ : Shared D T) = _
      rw [← hpc, Function.update_eq_self]

/-- It is the `close` of the runtime class ... -/
theorem close_runtime (self : DataFusionRuntimeImpl) (n : Native T) :
    self.close.exec n = (.ok ⟨0⟩, Closeable.runtime.free self.pointer n) := by
  obtain ⟨p⟩ := self
  cases p <;> rfl

/-- ... and that of the session class. -/
theorem close_session (self : DataFusionSessionImpl) (n : Native T) :
    self.close.exec n =
      (.ok { self with pointer := 0 }, Closeable.session.free self.pointer n) := by
  obtain ⟨p, runtimePointer⟩ := self
  cases p <;> rfl

/-! ## no step throws -/

def Pc.Calm (pc : Pc) : Prop := ∀ t, pc ≠ .threw t

/-- The field is not null, and nobody is about to throw. -/
structure Calm (s : Shared D T) : Prop where
  pointer : ∃ p, s.shared.pointer = some p
  threads : ∀ d, (s.pc d).Calm

/-- What a step does when the field is not null. -/
inductive Does (D : Type) (c : Closeable) (w : Wrapper T) (pc : Pc) :
    Move → Wrapper T → Pc → Prop where
  | read (p : Addr) (h : pc = .argument) (hp : w.pointer = some p) :
      Does D c w pc .next w (.freeing p)
  | free (p : Addr) (h : pc = .freeing p) :
      Does D c w pc .next { w with native := c.free p w.native } .clearing
  | clear (h : pc = .clearing) : Does D c w pc .next { w with pointer := some 0 } .idle
  /-- Nothing to do with the object: the thread is not in the middle of
  freeing it before, or does not move. -/
  | other {m : Move} {pc' : Pc} (h : m = .next → pc ≠ .argument)
      (hpc : pc' = pc ∨ ¬ pc.Freeing ∧ ¬ pc'.Freeing ∧ pc'.Calm) :
      Does D c w pc m w pc'

/-- What a move does to the wrapper and the thread. -/
theorem exec_does (c : Closeable) (m : Move) {w : Wrapper T} {pc : Pc} {p : Addr}
    (hp : w.pointer = some p) : Does D c w pc m (exec c m w pc).1 (exec c m w pc).2 := by
  cases m with
  | close => cases pc <;> exact .other (by simp) (by simp [exec, Pc.Calm, Pc.Freeing])
  | next =>
      cases pc with
      | idle => exact .other (by simp) (.inl rfl)
      | checkNull =>
          simp only [exec, hp, Option.isNone_some]
          exact .other (by simp) (by simp [Pc.Calm, Pc.Freeing])
      | checkClosed =>
          cases p with
          | zero =>
              simp only [exec, hp]
              exact .other (by simp) (by simp [Pc.Calm, Pc.Freeing])
          | succ p =>
              simp only [exec, hp]
              exact .other (by simp) (by simp [Pc.Calm, Pc.Freeing])
      | argument =>
          simp only [exec, hp]
          exact .read p rfl hp
      | freeing q => exact .free q rfl
      | clearing => exact .clear rfl
      | threw t => exact .other (by simp) (.inr (by simp [exec, Pc.Calm, Pc.Freeing]))

/-- A new wrapper is calm. -/
theorem calm_opened (n : Native T) (o : Obj T) : Calm (opened n o : Shared D T) :=
  ⟨⟨_, rfl⟩, fun _ _ h => by cases h⟩

section Step

variable [DecidableEq D] {c : Closeable} {s : Shared D T} {p : Addr}

/-- What a step does: one thread makes one move. -/
theorem step_does (m : Move) (d : D) (hp : s.shared.pointer = some p) :
    ∃ w pc, step c s (d, m) = ⟨w, Function.update s.pc d pc⟩ ∧
      Does D c s.shared (s.pc d) m w pc :=
  ⟨_, _, Threads.step_eq rfl, exec_does c m hp⟩

/-- One step keeps it calm. -/
theorem Calm.step (h : Calm s) (move : D × Move) : Calm (step c s move) := by
  obtain ⟨d, m⟩ := move
  obtain ⟨p, hp⟩ := h.pointer
  obtain ⟨w, pc, heq, hdoes⟩ := step_does (c := c) m d hp
  have hcalm : w.pointer = s.shared.pointer ∨ w.pointer = some 0 := by
    cases hdoes <;> simp
  have hpc : pc.Calm := by
    cases hdoes with
    | read | free | clear => simp [Pc.Calm]
    | other _ hpc =>
        rcases hpc with rfl | ⟨-, -, hpc⟩
        · exact h.threads d
        · exact hpc
  rw [heq]
  exact ⟨hcalm.elim (fun hw => ⟨p, hw.trans hp⟩) fun hw => ⟨0, hw⟩,
    Threads.forall_step h.threads hpc fun _ _ hd => hd⟩

/-- No interleaving of any number of closes throws. -/
theorem calm_run (n : Native T) (o : Obj T) (moves : List (D × Move)) :
    Calm (moves.foldl (Closing.step c) (opened n o)) :=
  List.foldlRecOn (motive := Calm) moves (Closing.step c) (calm_opened n o)
    fun _ h move _ => h.step move

end Step

/-! ## undisputed runs -/

/-- How often the object at an address has been freed. -/
def Wrapper.frees (w : Wrapper T) (c : Closeable) (p : Addr) : Nat :=
  w.native.trace.count (.free c.kind p)

/-- No thread reads the uncleared field as the argument of the free while
another one is between its own argument and the clearing of the field. -/
def Undisputed (s : Shared D T) (move : D × Move) : Prop :=
  move.2 = .next → s.pc move.1 = .argument → IsOpen s.shared.pointer → ∀ d, ¬ (s.pc d).Freeing

/-- What the stage the object is at says of a thread. -/
def Pc.At (p : Addr) (stage : Stage D) (d : D) : Pc → Prop
  | .freeing q => stage = .taken d ∧ q = p ∨ stage = .cleared ∧ q = 0
  | .clearing => stage = .freed d ∨ stage = .cleared
  | _ => stage.owner ≠ some d

/-- The wrapper of the object at `p` is at a stage. -/
structure Inv (c : Closeable) (p : Addr) (stage : Stage D) (s : Shared D T) : Prop where
  pointer : s.shared.pointer = some (stage.found p 0)
  trace : s.shared.native.trace =
    .alloc c.kind p :: List.replicate stage.frees (.free c.kind p)
  threads : ∀ d, (s.pc d).At p stage d

section Inv

variable {c : Closeable} {p : Addr} {stage : Stage D} {s : Shared D T} {d : D} {pc : Pc}

/-- The frees so far are those of the stage. -/
theorem Inv.frees_eq (h : Inv c p stage s) : s.shared.frees c p = stage.frees := by
  rw [Wrapper.frees, h.trace, List.count_cons_of_ne (by simp), List.count_replicate_self]

/-- A new wrapper is untouched. -/
theorem inv_opened (n : Native T) (o : c.Object T) :
    Inv c n.next .untouched (opened n o : Shared D T) where
  pointer := rfl
  trace := by
    change [Event.alloc o.1.kind n.next] = _
    rw [o.2]
    rfl
  threads _ := by simp [opened, Pc.At]

/-- A thread that is not freeing does not own the stage. -/
theorem Pc.at_iff (h : ¬ pc.Freeing) : pc.At p stage d ↔ stage.owner ≠ some d := by
  cases pc <;> first | exact Iff.rfl | exact absurd trivial h

/-- Before the field is cleared, whoever is freeing has the object. -/
theorem Pc.At.owner (h : pc.At p stage d) (ho : stage ≠ .cleared) (hf : pc.Freeing) :
    stage.owner = some d := by
  cases pc with
  | freeing q =>
      obtain ⟨rfl, -⟩ | ⟨rfl, -⟩ := h
      · rfl
      · contradiction
  | clearing =>
      obtain rfl | rfl := h
      · rfl
      · contradiction
  | _ => contradiction

/-- The other way round, the thread that has the object is freeing it. -/
theorem Inv.freeing_of_owner (h : Inv c p stage s) (ho : stage.owner = some d) :
    (s.pc d).Freeing := by
  by_contra hf
  exact (Pc.at_iff hf).mp (h.threads d) ho

/-- A thread that does not have the object is at any stage. -/
theorem Pc.At.other {stage' : Stage D} (h : pc.At p stage d) (hc : stage ≠ .cleared)
    (hs : stage.owner ≠ some d) (hs' : stage'.owner ≠ some d) : pc.At p stage' d := by
  have hf : ¬ pc.Freeing := fun hf => hs (h.owner hc hf)
  exact (Pc.at_iff hf).mpr hs'

section Step

variable [DecidableEq D] {w : Wrapper T}

/-- The object stays at its stage. -/
private theorem Inv.stay (h : Inv c p stage s) (own : pc.At p stage d)
    (hp : w.pointer = s.shared.pointer) (hn : w.native = s.shared.native) :
    Inv c p stage ⟨w, Function.update s.pc d pc⟩ where
  pointer := hp.trans h.pointer
  trace := by rw [hn]; exact h.trace
  threads := Threads.forall_step h.threads own fun _ _ hat => hat

/-- The moving thread takes the object from one stage to the next. -/
private theorem Inv.advance {stage' : Stage D} (h : Inv c p stage s) (own : pc.At p stage' d)
    (ho : stage ≠ .cleared) (hs : ∀ d', stage.owner = some d' → d' = d)
    (hs' : ∀ d', stage'.owner = some d' → d' = d) (hp : w.pointer = some (stage'.found p 0))
    (hn : w.native.trace = .alloc c.kind p :: List.replicate stage'.frees (.free c.kind p)) :
    Inv c p stage' ⟨w, Function.update s.pc d pc⟩ where
  pointer := hp
  trace := hn
  threads := Threads.forall_step h.threads own fun d' hd hat =>
    hat.other ho (fun ho => hd (hs d' ho)) fun ho => hd (hs' d' ho)

/-- **One undisputed step**: the object stays where it is, or is taken one
stage on. -/
theorem Inv.step (hp : p ≠ 0) (h : Inv c p stage s) {move : D × Move} (hu : Undisputed s move) :
    ∃ stage', Inv c p stage' (step c s move) := by
  obtain ⟨d, m⟩ := move
  obtain ⟨w, pc, heq, hdoes⟩ := step_does (c := c) m d h.pointer
  have hd := h.threads d
  rw [heq]
  cases hdoes with
  | read q hpc hq =>
      rw [hpc] at hd
      by_cases ho : stage = .cleared
      · subst ho
        have hq0 : q = 0 := Option.some.inj (hq.symm.trans h.pointer)
        exact ⟨.cleared, h.stay (.inr ⟨rfl, hq0⟩) rfl rfl⟩
      · have hopen : s.shared.pointer = some p := by rw [h.pointer, Stage.found_of_ne ho]
        obtain rfl : q = p := Option.some.inj (hq.symm.trans hopen)
        have hnone := hu rfl hpc ⟨q, hp, hopen⟩
        -- nobody is freeing, so nobody has the object
        obtain rfl : stage = .untouched := by
          cases stage with
          | untouched => rfl
          | cleared => contradiction
          | taken d' | freed d' => exact absurd (h.freeing_of_owner rfl) (hnone d')
        exact ⟨.taken d, h.advance (.inl ⟨rfl, rfl⟩) ho (by simp) (by simp) h.pointer h.trace⟩
  | free q hpc =>
      rw [hpc] at hd
      obtain ⟨rfl, rfl⟩ | ⟨rfl, rfl⟩ := hd
      · refine ⟨.freed d, h.advance (.inl rfl) (by simp) (by simp) (by simp) h.pointer ?_⟩
        dsimp only
        rw [c.free_eq, if_neg hp, Native.trace_unbox, h.trace]
        rfl
      · exact ⟨.cleared, h.stay (.inr rfl) rfl (by rw [c.free_eq, if_pos rfl])⟩
  | clear hpc =>
      rw [hpc] at hd
      obtain rfl | rfl := hd
      · exact ⟨.cleared, h.advance (by simp [Pc.At]) (by simp) (by simp) (by simp) rfl h.trace⟩
      · exact ⟨.cleared, h.stay (by simp [Pc.At]) h.pointer.symm rfl⟩
  | other _ hpc =>
      refine ⟨stage, h.stay ?_ rfl rfl⟩
      obtain rfl | ⟨hnot, hnot', -⟩ := hpc
      · exact hd
      · exact (Pc.at_iff hnot').mpr ((Pc.at_iff hnot).mp hd)

/-- **One disputed step is enough**: as soon as the two threads have taken
their next steps, the object has been freed twice. -/
theorem frees_twice_of_disputed (hp : p ≠ 0) (h : Inv c p stage s) {m : Move}
    (hu : ¬ Undisputed s (d, m)) :
    ∃ d', ([(d, .next), (d', .next), (d, .next)].foldl (step c) s).shared.frees c p = 2 := by
  simp only [Undisputed, not_forall, not_not] at hu
  obtain ⟨-, hpc, ⟨q, hq, hopen⟩, d', hf⟩ := hu
  have hclear : stage ≠ .cleared := by
    rintro rfl
    exact hq (Option.some.inj (hopen.symm.trans h.pointer))
  have hfield : s.shared.pointer = some p := by rw [h.pointer, Stage.found_of_ne hclear]
  have hne : d' ≠ d := fun he => by
    rw [he, hpc] at hf
    exact hf
  have hread : step c s (d, .next) = ⟨s.shared, Function.update s.pc d (.freeing p)⟩ :=
    Threads.step_eq (by rw [hpc, exec, hfield])
  have hfree : ∀ n : Native T, (c.free p n).trace = n.trace ++ [.free c.kind p] := fun n => by
    rw [c.free_eq, if_neg hp, Native.trace_unbox]
  have hat := h.threads d'
  refine ⟨d', ?_⟩
  rw [List.foldl_cons, hread]
  cases hpc' : s.pc d' with
  | freeing q' =>
      -- the other thread has its argument too
      rw [hpc'] at hat
      obtain ⟨rfl, rfl⟩ | ⟨rfl, -⟩ := hat
      · simp [Threads.step, exec, Function.update_of_ne hne, Function.update_of_ne hne.symm, hpc',
          Wrapper.frees, hfree, h.trace, Stage.frees]
      · contradiction
  | clearing =>
      -- the other thread has freed the object already
      rw [hpc'] at hat
      obtain rfl | rfl := hat
      · simp [Threads.step, exec, Function.update_of_ne hne, Function.update_of_ne hne.symm, hpc',
          Wrapper.frees, hfree, h.trace, Stage.frees]
      · contradiction
  | _ => rw [hpc'] at hf; exact hf.elim

end Step

end Inv

/-! ## the contract -/

section Contract

variable [DecidableEq D]

/-- An undisputed run takes the object through its stages. -/
theorem staged_run (c : Closeable) (n : Native T) (o : c.Object T) (moves : List (D × Move))
    (h : AllSteps (step c) Undisputed (opened n o) moves) :
    ∃ stage, Inv c n.next stage (moves.foldl (step c) (opened n o)) :=
  AllSteps.invariant (I := fun s : Shared D T => ∃ stage, Inv c n.next stage s)
    (fun _ _ ⟨_, hs⟩ hu => hs.step n.next_ne_null hu) h ⟨_, inv_opened n o⟩

/-- **When closing is safe**: no `close()` throws; in an undisputed run the
object is freed at most once throughout; and an undisputed run whose next
step is disputed goes on, by three steps of the two threads concerned, to a
double free. -/
theorem close_frees_once (c : Closeable) (n : Native T) (o : c.Object T)
    (moves : List (D × Move)) :
    (∀ before, before <+: moves → ∀ d t, (before.foldl (step c) (opened n o)).pc d ≠ .threw t) ∧
    (AllSteps (step c) Undisputed (opened n o) moves → ∀ before, before <+: moves →
      (before.foldl (step c) (opened n o)).shared.frees c n.next ≤ 1) ∧
    (AllSteps (step c) Undisputed (opened n o) moves → ∀ d m,
      ¬ Undisputed (moves.foldl (step c) (opened n o)) (d, m) →
        ∃ d', ((moves ++ [(d, Move.next), (d', Move.next), (d, Move.next)]).foldl (step c)
          (opened n o)).shared.frees c n.next = 2) := by
  refine ⟨fun before _ => (calm_run n o.1 before).threads, fun h before hb => ?_,
    fun h d m hu => ?_⟩
  · obtain ⟨stage, hinv⟩ := staged_run c n o before (h.of_prefix hb)
    rw [hinv.frees_eq]
    exact stage.frees_le_one
  · obtain ⟨stage, hinv⟩ := staged_run c n o moves h
    obtain ⟨d', hd'⟩ := frees_twice_of_disputed n.next_ne_null hinv hu
    exact ⟨d', by rwa [List.foldl_append]⟩

end Contract

/-- Two threads that both read the field before either clears it. -/
private def bothRead : List (Nat × Move) :=
  [(0, .close), (0, .next), (0, .next), (0, .next), (1, .close), (1, .next), (1, .next),
    (1, .next), (0, .next), (1, .next)]

/-- Runtime and session alike are freed twice. -/
theorem closed_twice :
    (¬ ∀ moves : List (Nat × Move), (moves.foldl (step .runtime)
      (opened (Native.empty : Native planTypes) .runtime)).shared.frees .runtime 1 ≤ 1) ∧
    ¬ ∀ moves : List (Nat × Move), (moves.foldl (step .session)
      (opened (Native.empty : Native planTypes) (.session []))).shared.frees .session 1 ≤ 1 :=
  ⟨fun h => absurd (h bothRead) (by decide), fun h => absurd (h bothRead) (by decide)⟩

end Closing

end DataFusionPanama
