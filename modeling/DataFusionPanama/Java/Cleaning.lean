import DataFusionPanama.Base.Threads
import DataFusionPanama.Java.Api

/-!
# DataFusionPanama.Java.Cleaning

One dataframe wrapper in the hands of many threads.  `close()` goes through
`Cleanable.clean()`, which runs the cleaning action at most once and returns
to every later caller at once; the action reads the pointer, frees the frame
and only then clears the field.  `nativePointer()` reads the field once.

The frame is freed at most once in every interleaving (`Inv`: at any time it
is at one `Stage`, and at most one thread is inside the action).  What a
reader gets is another matter.  Between the free and the clearing of the
field the freed pointer is still there to be read; and a `close()` that finds
the action claimed returns while another thread is still inside it, so that a
call started after that still finds the pointer.  `Undisturbed` is the
condition on the schedule under which nobody sees these two windows.
-/

namespace DataFusionPanama.Cleaning

variable {T : Types} {D : Type}

/-! ## the steps of the two methods -/

/-- The fields two threads can meet in.  `pointer` is the `volatile` field of
the cleaning action, `none` being Java's `null`; `cleaned` is whether the
`Cleanable` has been cleaned.  `returned` is a ghost: some `close()` call has
returned. -/
structure Wrapper (T : Types) where
  pointer : Option Addr
  cleaned : Bool
  returned : Bool
  native : Native T

/-- What a thread does next. -/
inductive Pc where
  /-- Outside both methods. -/
  | idle
  /-- `pointer()`: read the field.  The call is `late` when it started after
  some `close()` had returned. -/
  | reading (late : Bool)
  /-- `pointer()`: return or throw. -/
  | answered (late : Bool) (answer : Except Throwable Addr)
  /-- `clean()` -/
  | closing
  /-- `run()`: read the field. -/
  | running
  /-- `DATAFRAME_FREE.invokeExact(p)` -/
  | freeing (p : Addr)
  /-- `pointer = MemorySegment.NULL` -/
  | clearing
  /-- `close()`: return. -/
  | leaving

/-- A thread starts a call, or takes the next step of the one it is in. -/
inductive Move where
  | close | nativePointer | next
  deriving DecidableEq, Repr

/-- What `pointer()` makes of the field it has read. -/
def answer : Option Addr → Except Throwable Addr
  | none | some 0 => .error (.illegalStateException "DataFrame is closed")
  | some p => .ok p

def exec : Move → Wrapper T → Pc → Wrapper T × Pc
  | .nativePointer, w, .idle => (w, .reading w.returned)
  | .next, w, .reading late => (w, .answered late (answer w.pointer))
  | .next, w, .answered _ _ => (w, .idle)
  | .close, w, .idle => (w, .closing)
  | .next, w, .closing =>
      if w.cleaned then (w, .leaving) else ({ w with cleaned := true }, .running)
  | .next, w, .running =>
      match w.pointer with
      | none | some 0 => (w, .leaving)
      | some p => (w, .freeing p)
  | .next, w, .freeing p => ({ w with native := dataframeFree p w.native }, .clearing)
  | .next, w, .clearing => ({ w with pointer := some 0 }, .leaving)
  | .next, w, .leaving => ({ w with returned := true }, .idle)
  | _, w, pc => (w, pc)

/-- A wrapper and the threads that use it. -/
abbrev Shared (D : Type) (T : Types) := Threads D (Wrapper T) Pc

abbrev step [DecidableEq D] : Shared D T → D × Move → Shared D T := Threads.step exec

/-- A wrapper just made for a new frame.  The trace begins there. -/
def opened (n : Native T) (df : T.Plan) : Shared D T where
  shared := ⟨some n.next, false, false, { n with trace := [] }.box (.dataframe df)⟩
  pc _ := .idle

/-! ## alone -/

/-- What a thread without company does in `close()` is the `close` of the
wrapper class. -/
theorem close_alone [DecidableEq D] (self : DataFusionDataFrameImpl) (s : Shared D T) (d : D)
    (hpc : s.pc d = .idle) (hp : s.shared.pointer = some self.pointer)
    (hc : s.shared.cleaned = self.cleaned) :
    let s' := ([.close, .next, .next, .next, .next, .next].map (d, ·)).foldl step s
    ∃ self', self.close.exec s.shared.native = (.ok self', s'.shared.native) ∧
      s'.shared.pointer = some self'.pointer ∧ s'.shared.cleaned = self'.cleaned ∧
      s'.pc = s.pc := by
  obtain ⟨⟨pointer, cleaned, returned, native⟩, pc⟩ := s
  obtain ⟨p, runtimePointer, cleaned'⟩ := self
  dsimp only at hpc hp hc
  subst hp hc
  have hupd : Function.update pc d .idle = pc := by rw [← hpc, Function.update_eq_self]
  rw [Threads.foldl_step_alone]
  simp only [hpc]
  cases cleaned with
  | true => exact ⟨_, rfl, rfl, rfl, hupd⟩
  | false =>
      cases p with
      | zero => exact ⟨_, rfl, rfl, rfl, hupd⟩
      | succ p => exact ⟨_, rfl, rfl, rfl, hupd⟩

/-- The same for `nativePointer()`: the answer to the field is what the
method of the wrapper class returns or throws. -/
theorem nativePointer_alone (self : DataFusionDataFrameImpl) (n : Native T) :
    self.nativePointer.exec n =
      ((answer (some self.pointer)).mapError Stop.thrown, n) := by
  obtain ⟨p, runtimePointer, cleaned⟩ := self
  cases p <;> rfl

/-! ## the frame is freed at most once -/

/-- How often the frame at an address has been freed. -/
def Wrapper.frees (w : Wrapper T) (p : Addr) : Nat :=
  w.native.trace.count (.free .dataframe p)

/-- What the stage the frame is at says of a thread. -/
def Pc.At (p : Addr) (stage : Stage D) (d : D) : Pc → Prop
  | .running => stage = .taken d
  | .freeing q => stage = .taken d ∧ q = p
  | .clearing => stage = .freed d
  | .answered _ r => stage.owner ≠ some d ∧ ∀ q, r = .ok q → q = p
  | _ => stage.owner ≠ some d

/-- The wrapper of the frame at `p` is at a stage. -/
structure Inv (p : Addr) (stage : Stage D) (s : Shared D T) : Prop where
  pointer : s.shared.pointer = some (stage.found p 0)
  cleaned : s.shared.cleaned = false ↔ stage = .untouched
  trace : s.shared.native.trace =
    .alloc .dataframe p :: List.replicate stage.frees (.free .dataframe p)
  threads : ∀ d, (s.pc d).At p stage d

variable {p : Addr} {stage : Stage D} {s : Shared D T} {d : D}

/-- The frees so far are those of the stage. -/
theorem Inv.frees_eq (h : Inv p stage s) : s.shared.frees p = stage.frees := by
  rw [Wrapper.frees, h.trace, List.count_cons_of_ne (by simp), List.count_replicate_self]

/-- A thread that has nothing to do with the action is at any stage. -/
theorem Pc.At.other {stage' : Stage D} {pc : Pc} (h : pc.At p stage d)
    (hs : stage.owner ≠ some d) (hs' : stage'.owner ≠ some d) : pc.At p stage' d := by
  cases pc with
  | running => subst h; exact absurd rfl hs
  | freeing q => obtain ⟨rfl, -⟩ := h; exact absurd rfl hs
  | clearing => subst h; exact absurd rfl hs
  | answered late r => exact ⟨hs', h.2⟩
  | idle | reading late | closing | leaving => exact hs'

/-- A new wrapper is untouched. -/
theorem inv_opened (n : Native T) (df : T.Plan) :
    Inv n.next .untouched (opened n df : Shared D T) where
  pointer := rfl
  cleaned := by simp [opened, Native.box, Native.log]
  trace := rfl
  threads d := by simp [opened, Pc.At]

/-- What a step does, as far as the stages are concerned. -/
inductive Does (D : Type) (w : Wrapper T) (pc : Pc) : Move → Wrapper T → Pc → Prop where
  | read (late : Bool) (h : pc = .reading late) :
      Does D w pc .next w (.answered late (answer w.pointer))
  | claim (h : pc = .closing) (hc : w.cleaned = false) :
      Does D w pc .next { w with cleaned := true } .running
  | miss (h : pc = .running) (hp : ∀ q, w.pointer = some q → q = 0) : Does D w pc .next w .leaving
  | take (q : Addr) (h : pc = .running) (hp : w.pointer = some q) : Does D w pc .next w (.freeing q)
  | free (q : Addr) (h : pc = .freeing q) :
      Does D w pc .next { w with native := dataframeFree q w.native } .clearing
  | clear (h : pc = .clearing) : Does D w pc .next { w with pointer := some 0 } .leaving
  | other {m : Move} {w' : Wrapper T} {pc' : Pc} (hp : w'.pointer = w.pointer)
      (hc : w'.cleaned = w.cleaned) (hn : w'.native = w.native)
      (hat : ∀ p (stage : Stage D) d, pc.At p stage d → pc'.At p stage d)
      (hans : ∀ late r, pc' = .answered late r → pc = .answered late r)
      (hm : m = .next → (∀ late, pc ≠ .reading late) ∧ ∀ q, pc ≠ .freeing q) :
      Does D w pc m w' pc'

/-- What a move does to the wrapper and the thread. -/
theorem exec_does (m : Move) (w : Wrapper T) (pc : Pc) :
    Does D w pc m (exec m w pc).1 (exec m w pc).2 := by
  cases m with
  | next =>
      cases pc with
      | idle => exact .other rfl rfl rfl (fun _ _ _ h => h) (by simp [exec]) (by simp)
      | reading late => exact .read late rfl
      | answered late r => exact .other rfl rfl rfl (fun _ _ _ h => h.1) (by simp [exec]) (by simp)
      | closing =>
          cases hc : w.cleaned with
          | true =>
              simp only [exec, hc, if_true]
              exact .other rfl rfl rfl (fun _ _ _ h => h) (by simp) (by simp)
          | false =>
              simp only [exec, hc]
              exact .claim rfl hc
      | running =>
          rcases hp : w.pointer with _ | _ | q
          · simp only [exec, hp]
            exact .miss rfl (by simp [hp])
          · simp only [exec, hp]
            exact .miss rfl (by simp [hp])
          · simp only [exec, hp]
            exact .take _ rfl hp
      | freeing q => exact .free q rfl
      | clearing => exact .clear rfl
      | leaving => exact .other rfl rfl rfl (fun _ _ _ h => h) (by simp [exec]) (by simp)
  | close | nativePointer =>
      cases pc <;> exact .other rfl rfl rfl (fun _ _ _ h => h) (by simp [exec]) (by simp)

section Step

variable [DecidableEq D] {w : Wrapper T} {pc : Pc}

/-- What a step does: one thread makes one move. -/
theorem step_does (s : Shared D T) (d : D) (m : Move) :
    ∃ w pc, step s (d, m) = ⟨w, Function.update s.pc d pc⟩ ∧ Does D s.shared (s.pc d) m w pc :=
  ⟨_, _, Threads.step_eq rfl, exec_does m s.shared (s.pc d)⟩

/-- The frame stays at its stage. -/
private theorem Inv.stay (h : Inv p stage s) (own : pc.At p stage d)
    (hp : w.pointer = s.shared.pointer) (hc : w.cleaned = s.shared.cleaned)
    (hn : w.native = s.shared.native) : Inv p stage ⟨w, Function.update s.pc d pc⟩ where
  pointer := hp.trans h.pointer
  cleaned := by rw [hc]; exact h.cleaned
  trace := by rw [hn]; exact h.trace
  threads := Threads.forall_step h.threads own fun _ _ hat => hat

/-- The moving thread takes the frame from one stage to the next. -/
private theorem Inv.advance {stage' : Stage D} (h : Inv p stage s) (own : pc.At p stage' d)
    (hs : ∀ d', stage.owner = some d' → d' = d) (hs' : ∀ d', stage'.owner = some d' → d' = d)
    (hp : w.pointer = some (stage'.found p 0)) (hc : w.cleaned = false ↔ stage' = .untouched)
    (hn : w.native.trace =
      .alloc .dataframe p :: List.replicate stage'.frees (.free .dataframe p)) :
    Inv p stage' ⟨w, Function.update s.pc d pc⟩ where
  pointer := hp
  cleaned := hc
  trace := hn
  threads := Threads.forall_step h.threads own fun d' hd hat =>
    hat.other (fun ho => hd (hs d' ho)) fun ho => hd (hs' d' ho)

/-- **One step**: the frame stays where it is, or is taken one stage on. -/
theorem Inv.step (hp : p ≠ 0) (h : Inv p stage s) (move : D × Move) :
    ∃ stage', Inv p stage' (step s move) := by
  obtain ⟨d, m⟩ := move
  obtain ⟨w, pc, heq, hdoes⟩ := step_does s d m
  have hd := h.threads d
  rw [heq]
  cases hdoes with
  | read late hpc =>
      rw [hpc] at hd
      refine ⟨stage, h.stay ⟨hd, fun q hq => ?_⟩ rfl rfl rfl⟩
      rw [h.pointer] at hq
      cases stage with
      | cleared => cases hq
      | untouched | taken _ | freed _ =>
          cases p with
          | zero => contradiction
          | succ p => cases hq; rfl
  | claim hpc hc =>
      obtain rfl := h.cleaned.mp hc
      exact ⟨.taken d, h.advance rfl (by simp) (by simp) h.pointer (by simp) h.trace⟩
  | miss hpc hq =>
      rw [hpc] at hd
      obtain rfl := hd
      exact absurd (hq p h.pointer) hp
  | take q hpc hq =>
      rw [hpc] at hd
      obtain rfl := hd
      have hqp : q = p := Option.some.inj (hq.symm.trans h.pointer)
      exact ⟨.taken d, h.stay ⟨rfl, hqp⟩ rfl rfl rfl⟩
  | free q hpc =>
      rw [hpc] at hd
      obtain ⟨rfl, rfl⟩ := hd
      refine ⟨.freed d, h.advance rfl (by simp) (by simp) h.pointer ?_ ?_⟩
      · exact h.cleaned.trans (by simp)
      · dsimp only
        rw [dataframeFree, if_neg hp, Native.trace_unbox, h.trace]
        rfl
  | clear hpc =>
      rw [hpc] at hd
      obtain rfl := hd
      exact ⟨.cleared, h.advance (by simp [Pc.At]) (by simp) (by simp) rfl
        (h.cleaned.trans (by simp)) h.trace⟩
  | other hp' hc hn hat => exact ⟨stage, h.stay (hat p stage d hd) hp' hc hn⟩

end Step

/-! ## a close() returns when the action has been claimed -/

/-- What a thread knows of the `Cleanable`: it has been cleaned once the
thread has found it so, and once a `close()` has returned. -/
def Pc.Claimed (w : Wrapper T) : Pc → Prop
  | .reading late => late = true → w.cleaned = true
  | .running | .freeing _ | .clearing | .leaving => w.cleaned = true
  | .idle | .answered _ _ | .closing => True

/-- No `close()` has returned, and no call is late, before the action has
been claimed. -/
structure Claimed (s : Shared D T) : Prop where
  returned : s.shared.returned = true → s.shared.cleaned = true
  threads : ∀ d, (s.pc d).Claimed s.shared

/-- No `close()` has returned from a new wrapper. -/
theorem claimed_opened (n : Native T) (df : T.Plan) : Claimed (opened n df : Shared D T) where
  returned h := by cases h
  threads _ := trivial

/-- What is known stays known. -/
theorem Pc.Claimed.mono {w w' : Wrapper T} {pc : Pc} (h : pc.Claimed w)
    (hmono : w.cleaned = true → w'.cleaned = true) : pc.Claimed w' := by
  cases pc with
  | reading late => exact fun hlate => hmono (h hlate)
  | running | freeing _ | clearing | leaving => exact hmono h
  | idle | answered _ _ | closing => trivial

/-- The `Cleanable` stays cleaned. -/
theorem cleaned_exec (m : Move) {w : Wrapper T} (pc : Pc) (h : w.cleaned = true) :
    (exec m w pc).1.cleaned = true := by
  cases m <;> cases pc <;> simp only [exec] <;> first | exact h | (split <;> first | rfl | exact h)

/-- A `close()` that returns leaves a claimed action behind. -/
theorem claimed_exec (m : Move) {w : Wrapper T} {pc : Pc}
    (hret : w.returned = true → w.cleaned = true) (hpc : pc.Claimed w) :
    ((exec m w pc).1.returned = true → (exec m w pc).1.cleaned = true) ∧
      (exec m w pc).2.Claimed (exec m w pc).1 := by
  cases m with
  | next =>
      cases pc with
      | idle | reading _ | answered _ _ => exact ⟨hret, trivial⟩
      | closing =>
          cases hc : w.cleaned with
          | true => simp [exec, hc, Pc.Claimed]
          | false => simp [exec, hc, Pc.Claimed]
      | running =>
          simp only [exec]
          split <;> exact ⟨hret, hpc⟩
      | freeing p => exact ⟨hret, hpc⟩
      | clearing => exact ⟨hret, hpc⟩
      | leaving => exact ⟨fun _ => hpc, trivial⟩
  | nativePointer =>
      cases pc with
      | idle => exact ⟨hret, hret⟩
      | _ => exact ⟨hret, hpc⟩
  | close =>
      cases pc with
      | idle => exact ⟨hret, trivial⟩
      | _ => exact ⟨hret, hpc⟩

/-- **One step**: whoever learns that a `close()` has returned comes after
the claim. -/
theorem Claimed.step [DecidableEq D] (h : Claimed s) (move : D × Move) :
    Claimed (step s move) := by
  obtain ⟨d, m⟩ := move
  obtain ⟨hret, hown⟩ := claimed_exec m h.returned (h.threads d)
  refine ⟨hret, Threads.forall_step h.threads hown fun d' _ hd' => ?_⟩
  exact hd'.mono (cleaned_exec m (s.pc d))

/-! ## what readers get -/

/-- An answer about to be given is a live pointer, and a late call gives
none at all. -/
def Pc.Sound (w : Wrapper T) : Pc → Prop
  | .answered late r =>
      (∀ p, r = .ok p → Event.free .dataframe p ∉ w.native.trace) ∧
        (late = true → r = .error (.illegalStateException "DataFrame is closed"))
  | _ => True

/-- No thread is about to return a freed pointer from `nativePointer()`, or
anything from a call that started after a `close()` had returned. -/
def Sound (s : Shared D T) : Prop := ∀ d, (s.pc d).Sound s.shared

/-- The thread is inside `run()`. -/
def Pc.InAction : Pc → Prop
  | .running | .freeing _ | .clearing => True
  | _ => False

/-- Nobody sees the two windows.  The field is read while no thread stands
between the free and the clearing of the field, and by a call that started
after a `close()` had returned while no thread is inside the action at all;
and no call that has read the pointer is still in progress when the frame is
freed. -/
structure Undisturbed (s : Shared D T) (move : D × Move) : Prop where
  read : ∀ late, move.2 = .next → s.pc move.1 = .reading late → ∀ d, s.pc d ≠ .clearing
  late : move.2 = .next → s.pc move.1 = .reading true → ∀ d, ¬ (s.pc d).InAction
  free : ∀ p, move.2 = .next → s.pc move.1 = .freeing p →
    ∀ d late q, s.pc d ≠ .answered late (.ok q)

/-- No thread has read a new wrapper. -/
theorem sound_opened (n : Native T) (df : T.Plan) : Sound (opened n df : Shared D T) :=
  fun _ => trivial

/-- A pointer that is not null is returned. -/
theorem answer_of_ne {q : Addr} (hq : q ≠ 0) : answer (some q) = .ok q := by
  cases q with
  | zero => contradiction
  | succ q => rfl

section Sound

variable {w : Wrapper T} {pc : Pc}

/-- The frame has been freed once it is at stage `freed`. -/
theorem Inv.free_mem_iff (h : Inv p stage s) :
    Event.free .dataframe p ∈ s.shared.native.trace ↔ stage.frees = 1 := by
  rw [h.trace]
  cases stage <;> simp [Stage.frees]

/-- While the field is uncleared, the frame has been freed exactly when a
thread is about to clear the field. -/
theorem Inv.freed_iff (h : Inv p stage s) (ho : stage ≠ .cleared) :
    stage.frees = 1 ↔ ∃ d, s.pc d = .clearing := by
  constructor
  · intro hf
    cases stage with
    | untouched | taken _ => cases hf
    | cleared => contradiction
    | freed d =>
        have hd := h.threads d
        refine ⟨d, ?_⟩
        cases hpc : s.pc d <;> simp [hpc, Pc.At] at hd ⊢
  · rintro ⟨d, hpc⟩
    have hd := h.threads d
    rw [hpc] at hd
    obtain rfl := hd
    rfl

/-- A thread is inside the action from the claim until the field is
cleared. -/
theorem Inv.inAction_iff (h : Inv p stage s) :
    (∃ d, (s.pc d).InAction) ↔ stage ≠ .untouched ∧ stage ≠ .cleared := by
  constructor
  · rintro ⟨d, hin⟩
    have hd := h.threads d
    cases hpc : s.pc d <;> rw [hpc] at hin hd <;> try exact hin.elim
    case running => obtain rfl := hd; simp
    case freeing q => obtain ⟨rfl, -⟩ := hd; simp
    case clearing => obtain rfl := hd; simp
  · rintro ⟨hu, hc⟩
    cases stage with
    | untouched | cleared => contradiction
    | taken d | freed d =>
        have hd := h.threads d
        refine ⟨d, ?_⟩
        cases hpc : s.pc d <;> simp [hpc, Pc.At, Pc.InAction] at hd ⊢

section Step

variable [DecidableEq D]

/-- A step that gives no new answer and frees nothing keeps a state sound. -/
private theorem Sound.stay (h : Sound s) (hn : w.native = s.shared.native)
    (hans : ∀ late r, pc = .answered late r → s.pc d = .answered late r) :
    Sound (⟨w, Function.update s.pc d pc⟩ : Shared D T) := by
  have hkeep : ∀ {pc : Pc}, pc.Sound s.shared → pc.Sound w := fun {pc} hpc => by
    cases pc <;> simp only [Pc.Sound, hn] at hpc ⊢
    exact hpc
  refine Threads.forall_step h ?_ fun d' _ hd' => hkeep hd'
  cases pc with
  | answered late r =>
      have hd := h d
      rw [hans late r rfl] at hd
      exact hkeep hd
  | _ => trivial

/-- Reading the field. -/
private theorem sound_read_iff (hp : p ≠ 0) (h : Inv p stage s) (hc : Claimed s) (hs : Sound s)
    {late : Bool} (hpc : s.pc d = .reading late) :
    Sound (⟨s.shared, Function.update s.pc d (.answered late (answer s.shared.pointer))⟩ :
        Shared D T) ↔ Undisturbed s (d, .next) := by
  have hown : Sound (⟨s.shared, Function.update s.pc d
      (.answered late (answer s.shared.pointer))⟩ : Shared D T) ↔
        (Pc.answered late (answer s.shared.pointer)).Sound s.shared := by
    refine ⟨fun hall => by simpa using hall d, fun hd => Threads.forall_step hs hd fun _ _ h => h⟩
  have hfreeing : ∀ q, s.pc d ≠ .freeing q := fun q hq => by simp [hpc] at hq
  rw [hown]
  by_cases ho : stage = .cleared
  · -- the field is cleared: the call throws, and nobody is inside the action
    subst ho
    have hnone : ∀ d', ¬ (s.pc d').InAction := fun d' hin => (h.inAction_iff.mp ⟨d', hin⟩).2 rfl
    refine iff_of_true ⟨by simp [h.pointer, Stage.found, answer], fun _ => by
      rw [h.pointer]; rfl⟩ ⟨fun _ _ _ d' hd' => hnone d' ?_, fun _ _ => hnone,
        fun q _ hq => absurd hq (hfreeing q)⟩
    rw [hd']
    trivial
  · have hfield : s.shared.pointer = some p := by rw [h.pointer, Stage.found_of_ne ho]
    have hfree := h.free_mem_iff.trans (h.freed_iff ho)
    rw [hfield, answer_of_ne hp]
    constructor
    · rintro ⟨hlive, hlate⟩
      refine ⟨fun _ _ _ d' hd' => hlive p rfl (hfree.mpr ⟨d', hd'⟩), fun _ hl => ?_,
        fun q _ hq => absurd hq (hfreeing q)⟩
      obtain rfl : late = true := by simpa [hpc] using hl
      cases hlate rfl
    · intro hu
      have hearly : late = false := by
        cases late with
        | false => rfl
        | true =>
            -- some close() has returned, so the action is claimed and not over
            have hcleaned : s.shared.cleaned = true := by
              have hd := hc.threads d
              rw [hpc] at hd
              exact hd rfl
            have hst : stage ≠ .untouched := fun hst => by
              rw [h.cleaned.mpr hst] at hcleaned
              cases hcleaned
            obtain ⟨d', hd'⟩ := h.inAction_iff.mpr ⟨hst, ho⟩
            exact absurd hd' (hu.late rfl hpc d')
      subst hearly
      refine ⟨fun q hq => ?_, by simp⟩
      obtain rfl := Except.ok.inj hq
      intro hmem
      obtain ⟨d', hd'⟩ := hfree.mp hmem
      exact hu.read false rfl hpc d' hd'

/-- Freeing the frame. -/
private theorem sound_free_iff (hp : p ≠ 0) (h : Inv p stage s) (hs : Sound s) {q : Addr}
    (hpc : s.pc d = .freeing q) :
    Sound (⟨{ s.shared with native := dataframeFree q s.shared.native },
        Function.update s.pc d .clearing⟩ : Shared D T) ↔ Undisturbed s (d, .next) := by
  have hd := h.threads d
  rw [hpc] at hd
  obtain ⟨-, rfl⟩ := hd
  have htrace : (dataframeFree q s.shared.native).trace =
      s.shared.native.trace ++ [.free .dataframe q] := by
    rw [dataframeFree, if_neg hp, Native.trace_unbox]
  constructor
  · intro hall
    refine ⟨fun late _ hl => by simp [hpc] at hl, fun _ hl => by simp [hpc] at hl,
      fun _ _ _ d' late q' hd' => ?_⟩
    have hne : d' ≠ d := fun he => by simp [he, hpc] at hd'
    have hsound := hall d'
    have hat := h.threads d'
    rw [hd'] at hat
    obtain rfl := hat.2 q' rfl
    simp only [Function.update_of_ne hne, hd', Pc.Sound] at hsound
    exact hsound.1 q' rfl (by simp [htrace])
  · intro hu
    refine Threads.forall_step hs trivial fun d' _ hsound => ?_
    cases hd' : s.pc d' with
    | answered late r =>
        rw [hd'] at hsound
        refine ⟨fun q' hr => ?_, hsound.2⟩
        exact absurd (hr ▸ hd') (hu.free q rfl hpc d' late q')
    | _ => trivial

/-- **The steps that keep readers safe** are the undisturbed ones. -/
theorem sound_step_iff (hp : p ≠ 0) (h : Inv p stage s) (hc : Claimed s) (hs : Sound s)
    (move : D × Move) : Sound (step s move) ↔ Undisturbed s move := by
  obtain ⟨d, m⟩ := move
  obtain ⟨w, pc, heq, hdoes⟩ := step_does s d m
  rw [heq]
  have hsafe : (∀ late, m = .next → s.pc d ≠ .reading late) →
      (∀ q, m = .next → s.pc d ≠ .freeing q) → Undisturbed s (d, m) := fun hr hf =>
    ⟨fun late hm hl => absurd hl (hr late hm), fun hm hl => absurd hl (hr true hm),
      fun q hm hq => absurd hq (hf q hm)⟩
  cases hdoes with
  | read late hpc => exact sound_read_iff hp h hc hs hpc
  | free q hpc => exact sound_free_iff hp h hs hpc
  | claim hpc | miss hpc | take _ hpc | clear hpc =>
      exact iff_of_true (hs.stay rfl (by simp)) (hsafe (by simp [hpc]) (by simp [hpc]))
  | other _ _ hn _ hans hm =>
      exact iff_of_true (hs.stay hn hans)
        (hsafe (fun late h => (hm h).1 late) fun q h => (hm h).2 q)

end Step

end Sound

/-! ## the contract -/

/-- The frame is at one of its stages, and whoever has seen a `close()`
return comes after the claim. -/
structure Staged (p : Addr) (s : Shared D T) : Prop where
  inv : ∃ stage, Inv p stage s
  claimed : Claimed s

/-- A new wrapper is at the first stage. -/
theorem staged_opened (n : Native T) (df : T.Plan) : Staged n.next (opened n df : Shared D T) :=
  ⟨⟨_, inv_opened n df⟩, claimed_opened n df⟩

section Contract

variable [DecidableEq D]

/-- One step keeps the invariant. -/
theorem Staged.step (hp : p ≠ 0) (h : Staged p s) (move : D × Move) : Staged p (step s move) := by
  obtain ⟨⟨stage, hinv⟩, hclaimed⟩ := h
  exact ⟨hinv.step hp move, hclaimed.step move⟩

/-- A whole run keeps it. -/
theorem staged_run (n : Native T) (df : T.Plan) (moves : List (D × Move)) :
    Staged n.next (moves.foldl Cleaning.step (opened n df)) :=
  List.foldlRecOn (motive := Staged n.next) moves Cleaning.step (staged_opened n df)
    fun _ h move _ => h.step n.next_ne_null move

/-- In every interleaving of any number of threads the frame is freed at most
once, whatever readers get. -/
theorem frees_le_one (n : Native T) (df : T.Plan) (moves : List (D × Move)) :
    (moves.foldl step (opened n df)).shared.frees n.next ≤ 1 := by
  obtain ⟨stage, h⟩ := (staged_run n df moves).inv
  rw [h.frees_eq]
  exact stage.frees_le_one

/-- **When `nativePointer()` is safe**: throughout a run nobody is handed a
freed pointer, or any pointer after a `close()` has returned, exactly when
every step of the run is undisturbed.  The frame is freed at most once in
any case. -/
theorem nativePointer_sound_iff (n : Native T) (df : T.Plan) (moves : List (D × Move)) :
    (∀ before, before <+: moves →
      (before.foldl step (opened n df)).shared.frees n.next ≤ 1) ∧
    ((∀ before, before <+: moves → Sound (before.foldl step (opened n df))) ↔
      AllSteps step Undisturbed (opened n df) moves) := by
  have hp := n.next_ne_null
  have hstep : ∀ (s : Shared D T) move, Staged n.next s → Staged n.next (step s move) :=
    fun _ move h => h.step hp move
  have hsound : ∀ (s : Shared D T) move, Staged n.next s → Sound s →
      (Sound (step s move) ↔ Undisturbed s move) := by
    intro s move hst hs
    obtain ⟨stage, h⟩ := hst.inv
    exact sound_step_iff hp h hst.claimed hs move
  exact ⟨fun before _ => frees_le_one n df before,
    safe_iff_allSteps hstep hsound (staged_opened n df) (sound_opened n df) moves⟩

end Contract

/-- Thread 0 closes the frame and is between the free and the clearing of
the field; thread 1 reads the field. -/
private def readInWindow : List (Nat × Move) :=
  [(0, .close), (0, .next), (0, .next), (0, .next), (1, .nativePointer), (1, .next)]

/-- Thread 1 finds the action claimed and its `close()` returns while thread
0 has not freed the frame yet; thread 2 asks for the pointer after that. -/
private def readAfterClose : List (Nat × Move) :=
  [(0, .close), (0, .next), (1, .close), (1, .next), (1, .next), (2, .nativePointer), (2, .next)]

/-- A freed pointer is returned in the one schedule, and a pointer after a
`close()` in the other. -/
theorem stale_pointer_returned :
    (¬ ∀ moves : List (Nat × Move),
      Sound (moves.foldl step (opened (Native.empty : Native planTypes) (.query [])))) ∧
    ∃ moves : List (Nat × Move), ∃ d p,
      let s := moves.foldl step (opened (Native.empty : Native planTypes) (.query []))
      s.pc d = .answered true (.ok p) ∧ p ≠ 0 := by
  refine ⟨fun h => ?_, readAfterClose, 2, 1, rfl, by decide⟩
  have hfreed := (h readInWindow 1).1 1 rfl
  exact hfreed (by decide)

end DataFusionPanama.Cleaning
