import DataFusionPanama.Base.Run
import DataFusionPanama.Process

/-!
# DataFusionPanama.Lifecycle

What holds of every run of a single-threaded program.  `Owned` is the
invariant: the live native objects and the open wrappers are the same set
of handles, each held by one wrapper.  It does not need the program to be
careful: wrappers may be closed in any order and used after that.

What does need care is the order of closes across wrappers.  A session and
a frame pass on a pointer copied from their runtime, which no check of
theirs covers, so a call on them is safe exactly when that runtime is still
open.
-/

namespace DataFusionPanama

open Native (Same)

variable {T : Types}

/-- A step of a program: the engine as it behaves just then, and the call. -/
abbrev Step (T : Types) := Engine T × ApiCall

namespace Process

/-- The state after a step. -/
def after (p : Process T) (s : Step T) : Process T := (p.step s.1 s.2).2

/-- How the call of a step ended. -/
def reply (p : Process T) (s : Step T) : Reply := (p.step s.1 s.2).1

/-- The state after a run. -/
abbrev run (p : Process T) (steps : List (Step T)) : Process T := steps.foldl after p

/-! ## ownership -/

/-- The live objects are those of the open wrappers, and no two of these
share one. -/
structure Owned (p : Process T) : Prop where
  tidy : p.Tidy
  nodup : p.handles.Nodup
  alive : ∀ k a, p.native.kind? a = some k ↔ (k, a) ∈ p.handles

/-- At the start nothing is owned. -/
theorem owned_start : (start : Process T).Owned := by
  refine ⟨fun f hf => by simp [start] at hf, List.nodup_nil, fun k a => ?_⟩
  simp [start, handles, Native.kind?, Native.empty]

section Step

variable {p : Process T} {call : ApiCall} {r : Reply} {p' : Process T}

/-- Nothing changes hands. -/
private theorem Owned.keep (h : p.Owned) (ht : p'.Tidy)
    (hn : ∀ a, p'.native.kind? a = p.native.kind? a) (hp : p'.handles.Perm p.handles) : p'.Owned :=
  ⟨ht, hp.nodup_iff.mpr h.nodup, fun k a => by rw [hn a, h.alive k a, hp.mem_iff]⟩

/-- A new object with a new wrapper. -/
private theorem Owned.create {k : Kind} (h : p.Owned) (ht : p'.Tidy)
    (hn : ∀ a, p'.native.kind? a = if a = p.native.next then some k else p.native.kind? a)
    (hp : p'.handles.Perm ((k, p.native.next) :: p.handles)) : p'.Owned := by
  -- no wrapper has the new address yet
  have hnew : ∀ k', (k', p.native.next) ∉ p.handles := fun k' hmem => by
    have := (h.alive k' p.native.next).mpr hmem
    simp at this
  refine ⟨ht, hp.nodup_iff.mpr (List.nodup_cons.mpr ⟨hnew k, h.nodup⟩), fun k' a => ?_⟩
  rw [hn a, hp.mem_iff, List.mem_cons]
  by_cases ha : a = p.native.next
  · subst ha
    simp [hnew k', eq_comm]
  · simp [ha, h.alive]

/-- An object goes with its wrapper. -/
private theorem Owned.close {h : Handle} (ho : p.Owned) (ht : p'.Tidy)
    (hn : ∀ a, p'.native.kind? a = if a = h.2 then none else p.native.kind? a)
    (hp : p.handles.Perm (h :: p'.handles)) : p'.Owned := by
  obtain ⟨hnot, hnodup⟩ := List.nodup_cons.mp (hp.nodup_iff.mp ho.nodup)
  refine ⟨ht, hnodup, fun k a => ?_⟩
  have halive := ho.alive k a
  rw [hp.mem_iff, List.mem_cons] at halive
  have hself := (ho.alive h.1 h.2).mpr (hp.mem_iff.mpr List.mem_cons_self)
  rw [hn a]
  by_cases ha : a = h.2
  · -- the freed address had one kind, and one wrapper
    subst ha
    refine iff_of_false (by simp) fun hmem => hnot ?_
    have hk := halive.mpr (.inr hmem)
    rw [hself, Option.some.injEq] at hk
    rwa [show h = (k, h.2) from Prod.ext hk rfl]
  · rw [if_neg ha, halive]
    refine ⟨fun hmem => hmem.resolve_left fun he => ha (congrArg Prod.snd he), .inr⟩

/-- A call keeps the ownership. -/
theorem Owned.transition (h : p.Owned) (ht : p'.Tidy) (hs : Transition p call (r, p')) :
    p'.Owned := by
  cases hs with
  | idle _ _ hu => exact h.keep ht hu.native.kind? hu.handles
  | rejected _ _ hu => exact h.keep ht hu.native.kind? hu.handles
  | called _ _ _ _ hn hp => exact h.keep ht hn.kind? hp
  | created _ _ _ _ ho hn hp =>
      refine h.create ht (fun a => ?_) hp
      rw [hn.kind? a, Native.kind?_box, ho]
      rfl
  | closed _ hn hp => exact h.close ht (fun a => by rw [hn, Native.kind?_unbox]) hp

end Step

section Run

variable {p : Process T}

/-- A step of a halted process. -/
theorem after_of_halted (h : p.halted = true) (s : Step T) : p.after s = p := by
  rw [after, step_of_halted s.1 s.2 h]

/-- There is no reply from a process that is gone. -/
theorem reply_of_halted (h : p.halted = true) (s : Step T) : p.reply s = none := by
  rw [reply, step_of_halted s.1 s.2 h]

/-- A step of a process that runs. -/
theorem transition_of_running (ht : p.Tidy) (h : p.halted = false) (s : Step T) :
    Transition p s.2 (p.reply s, p.after s) ∧ (p.after s).Tidy := by
  have hs := perform_transition s.1 s.2 ht
  rwa [← step_of_running s.1 s.2 h] at hs

/-- **Every step keeps ownership.** -/
theorem Owned.after (h : p.Owned) (s : Step T) : (p.after s).Owned := by
  cases hh : p.halted with
  | true => rwa [after_of_halted hh]
  | false =>
      obtain ⟨hs, ht⟩ := transition_of_running h.tidy hh s
      exact h.transition ht hs

/-- **Every run from the start does.** -/
theorem owned_run (steps : List (Step T)) : (start.run steps).Owned :=
  steps.foldlRecOn Process.after owned_start fun _ h s _ => h.after s

end Run

/-! ## the ledger -/

/-- The objects a piece of the trace boxes. -/
def allocated (events : List Event) : List Handle :=
  events.filterMap fun
    | .alloc k a => some (k, a)
    | _ => none

/-- The objects a piece of the trace frees. -/
def freed (events : List Event) : List Handle :=
  events.filterMap fun
    | .free k a => some (k, a)
    | _ => none

/-- The object a step has to create: one, when a creating call succeeds. -/
def creation (p : Process T) (s : Step T) : List Handle :=
  match p.reply s, (s.2.request p).bind Request.creates with
  | some (.ok _), some k => [(k, p.native.next)]
  | _, _ => []

/-- The object a step has to free: that of the open wrapper it closes. -/
def closing (p : Process T) (s : Step T) : List Handle :=
  if p.halted then [] else (s.2.closes p).toList

/-- What a step adds to the trace is what it has to create and to free, and
so is what it changes in the open wrappers. -/
structure Accounted (p : Process T) (s : Step T) (events : List Event) : Prop where
  trace : (p.after s).native.trace = p.native.trace ++ events
  allocated : allocated events = p.creation s
  freed : freed events = p.closing s
  handles : (p.closing s ++ (p.after s).handles).Perm (p.creation s ++ p.handles)
  next : (p.after s).native.next = p.native.next + (p.creation s).length
  /-- A call that fails neither creates nor frees. -/
  failing : ∀ e, p.reply s = some (.error e) → p.creation s = [] ∧ p.closing s = []

variable {p : Process T} {s : Step T}

/-- A step without a native call creates nothing. -/
theorem creation_of_no_request (hq : s.2.request p = none) : p.creation s = [] := by
  rw [creation, hq]
  cases p.reply s with
  | none => rfl
  | some r => cases r <;> rfl

/-- Nor does a native call that boxes nothing. -/
theorem creation_of_creates_none {q : Request} (hq : s.2.request p = some q)
    (hk : q.creates = none) : p.creation s = [] := by
  rw [creation, hq, Option.bind_some, hk]
  cases p.reply s with
  | none => rfl
  | some r => cases r <;> rfl

/-- Nor does one that fails. -/
theorem creation_of_ne_ok {r : Except Stop Unit} (hr : p.reply s = some r) (hne : r ≠ .ok ()) :
    p.creation s = [] := by
  rw [creation, hr]
  cases r with
  | ok _ => exact absurd rfl hne
  | error e => rfl

/-- A native call closes nothing. -/
theorem closing_of_request {q : Request} (hq : s.2.request p = some q) : p.closing s = [] := by
  rw [closing, ApiCall.closes_of_request hq]
  split <;> rfl

/-- A step that neither creates nor frees. -/
private theorem accounted_of_none (hcr : p.creation s = []) (hcl : p.closing s = [])
    {events : List Event} (ha : allocated events = []) (hf : freed events = [])
    (htrace : (p.after s).native.trace = p.native.trace ++ events)
    (hp : (p.after s).handles.Perm p.handles) (hnext : (p.after s).native.next = p.native.next) :
    p.Accounted s events where
  trace := htrace
  allocated := ha.trans hcr.symm
  freed := hf.trans hcl.symm
  handles := by rw [hcr, hcl]; exact hp
  next := by rw [hcr, hnext]; rfl
  failing _ _ := ⟨hcr, hcl⟩

/-- A step that changes nothing. -/
private theorem accounted_of_unchanged (hcr : p.creation s = []) (hcl : p.closing s = [])
    (hu : Unchanged p (p.after s)) : p.Accounted s [] :=
  accounted_of_none hcr hcl rfl rfl (by rw [hu.native.trace, List.append_nil]) hu.handles
    hu.native.next

/-- **The accounts of one step.** -/
theorem accounted_step (ht : p.Tidy) (s : Step T) : ∃ events, p.Accounted s events := by
  cases hh : p.halted with
  | true =>
      refine ⟨[], accounted_of_unchanged (by rw [creation, reply_of_halted hh])
        (by rw [closing, if_pos hh]) ?_⟩
      rw [after_of_halted hh]
      exact ⟨.refl _, .refl _⟩
  | false =>
      have hs := (transition_of_running ht hh s).1
      have hcl : p.closing s = (s.2.closes p).toList := by rw [closing, hh]; rfl
      generalize hr : p.reply s = r at hs
      generalize hp' : p.after s = p' at hs
      cases hs with
      | idle hq hc hu =>
          exact ⟨[], accounted_of_unchanged (creation_of_no_request hq) (by rw [hcl, hc]; rfl)
            (hp' ▸ hu)⟩
      | rejected hq hn hu =>
          exact ⟨[], accounted_of_unchanged (creation_of_ne_ok hr (by simp)) (closing_of_request hq)
            (hp' ▸ hu)⟩
      | @called q c r _ hq hpass hh hk hn hp =>
          have hcr : p.creation s = [] := by
            rcases hk with hk | hk
            · exact creation_of_creates_none hq hk
            · exact creation_of_ne_ok hr hk
          exact ⟨[.call c], accounted_of_none hcr (closing_of_request hq) rfl rfl (hp' ▸ hn.trace)
            (hp' ▸ hp) (hp' ▸ hn.next)⟩
      | @created q c k o _ hq hpass hh hk ho hn hp =>
          have hcr : p.creation s = [(k, p.native.next)] := by
            rw [creation, hr, hq, Option.bind_some, hk]
          have hcl' := closing_of_request hq
          refine ⟨[.call c, .alloc k p.native.next], ?_, hcr.symm, hcl'.symm, ?_, ?_, ?_⟩
          · rw [hp', hn.trace, Native.trace_box, Native.trace_log, ho, List.append_assoc]
            rfl
          · rw [hp', hcr, hcl']
            exact hp
          · rw [hp', hn.next, Native.next_box, hcr]
            rfl
          · intro e he
            rw [hr] at he
            cases he
      | @closed h _ hclose hn hp =>
          have hcr := creation_of_no_request (ApiCall.request_of_closes hclose)
          have hcl' : p.closing s = [h] := by rw [hcl, hclose]; rfl
          refine ⟨[.free h.1 h.2], ?_, hcr.symm, hcl'.symm, ?_, ?_, ?_⟩
          · rw [hp', hn, Native.trace_unbox]
          · rw [hp', hcr, hcl']
            exact hp.symm
          · rw [hp', hn, Native.next_unbox, hcr]
            rfl
          · intro e he
            rw [hr] at he
            cases he

/-- The books of a whole run: what was ever allocated is what has been freed
and what is held by the open wrappers, and nothing occurs twice. -/
structure Balanced (p : Process T) : Prop where
  balance : (freed p.native.trace ++ p.handles).Perm (allocated p.native.trace)
  nodup : (allocated p.native.trace).Nodup
  old : ∀ h ∈ allocated p.native.trace, h.2 < p.native.next

/-- At the start nothing has been created or freed. -/
theorem balanced_start : (start : Process T).Balanced :=
  ⟨.refl _, List.nodup_nil, fun h hh => by cases hh⟩

/-- A step creates at most one object, at the next address. -/
theorem creation_cases (p : Process T) (s : Step T) :
    p.creation s = [] ∨ ∃ k, p.creation s = [(k, p.native.next)] := by
  unfold creation
  split
  · exact .inr ⟨_, rfl⟩
  · exact .inl rfl

/-- One step keeps the balance. -/
theorem Balanced.after (h : p.Balanced) (ht : p.Tidy) (s : Step T) : (p.after s).Balanced := by
  obtain ⟨events, ha⟩ := accounted_step ht s
  have halloc : Process.allocated (p.after s).native.trace =
      Process.allocated p.native.trace ++ p.creation s := by
    rw [ha.trace, Process.allocated, List.filterMap_append, ← ha.allocated]
    rfl
  have hfree : Process.freed (p.after s).native.trace =
      Process.freed p.native.trace ++ p.closing s := by
    rw [ha.trace, Process.freed, List.filterMap_append, ← ha.freed]
    rfl
  refine ⟨?_, ?_, ?_⟩
  · rw [halloc, hfree, List.append_assoc]
    calc Process.freed p.native.trace ++ (p.closing s ++ (p.after s).handles)
      _ |>.Perm (Process.freed p.native.trace ++ (p.creation s ++ p.handles)) :=
          ha.handles.append_left _
      _ |>.Perm (p.creation s ++ (Process.freed p.native.trace ++ p.handles)) :=
          List.perm_append_comm_assoc ..
      _ |>.Perm (p.creation s ++ Process.allocated p.native.trace) := h.balance.append_left _
      _ |>.Perm (Process.allocated p.native.trace ++ p.creation s) := List.perm_append_comm
  · rw [halloc]
    rcases p.creation_cases s with hc | ⟨k, hc⟩
    · rw [hc, List.append_nil]
      exact h.nodup
    · rw [hc]
      refine List.nodup_append.mpr ⟨h.nodup, List.nodup_cons.mpr (by simp), fun x hx y hy hxy => ?_⟩
      have hlt : x.2 < p.native.next := h.old x hx
      rw [hxy, List.mem_singleton.mp hy] at hlt
      exact Nat.lt_irrefl _ hlt
  · intro x hx
    rw [halloc, List.mem_append] at hx
    rw [ha.next]
    rcases hx with hx | hx
    · exact Nat.lt_of_lt_of_le (h.old x hx) (Nat.le_add_right _ _)
    · rcases p.creation_cases s with hc | ⟨k, hc⟩ <;> rw [hc] at hx
      · cases hx
      · rw [List.mem_singleton.mp hx, hc]
        exact Nat.lt_succ_self _

/-- **Ownership accounting.**  After every run the live objects and the open
wrappers correspond one to one; every step of it creates one object if it is
a creating call that succeeds, frees the object of a wrapper it closes for
the first time, and does nothing else to any object, in particular when it
fails; and over the whole run nothing is freed that was not allocated,
nothing is freed twice, and what is not freed is held by an open wrapper. -/
theorem ownership (steps : List (Step T)) :
    (start.run steps).Owned ∧
      AllSteps after (fun p s => ∃ events, p.Accounted s events) start steps ∧
      (start.run steps).Balanced := by
  refine ⟨owned_run steps, ?_, ?_⟩
  · exact allSteps_of_invariant (I := Process.Owned) (fun _ s h => h.after s)
      (fun _ s h => accounted_step h.tidy s) owned_start steps
  · exact (steps.foldlRecOn (motive := fun p => p.Owned ∧ p.Balanced) after
      ⟨owned_start, balanced_start⟩
      fun _ h s _ => ⟨h.1.after s, h.2.after h.1.tidy s⟩).2

/-! ## stale pointers -/

section Wrappers

variable {i : Nat}

/-- An open runtime owns its pointer. -/
theorem mem_handles_runtime {w : DataFusionRuntimeImpl} (h : p.runtimes[i]? = some w)
    (hp : w.pointer ≠ 0) : (.runtime, w.pointer) ∈ p.handles :=
  List.mem_append.mpr (.inl (List.mem_filterMap.mpr
    ⟨w, List.mem_of_getElem? h, openHandle_of_ne hp⟩))

theorem mem_handles_session {w : DataFusionSessionImpl} (h : p.sessions[i]? = some w)
    (hp : w.pointer ≠ 0) : (.session, w.pointer) ∈ p.handles :=
  List.mem_append.mpr (.inr (List.mem_append.mpr (.inl (List.mem_filterMap.mpr
    ⟨w, List.mem_of_getElem? h, openHandle_of_ne hp⟩))))

theorem mem_handles_frame {w : DataFusionDataFrameImpl} (h : p.frame? i = some w)
    (hp : w.pointer ≠ 0) : (.dataframe, w.pointer) ∈ p.handles :=
  List.mem_append.mpr (.inr (List.mem_append.mpr (.inr (List.mem_filterMap.mpr
    ⟨⟨w, false⟩, List.mem_of_getElem? (frame?_eq_some h), openHandle_of_ne hp⟩))))

theorem mem_handles_operand {other : Option Nat} {o : Option DataFusionDataFrameImpl}
    (h : p.operand? other = some o) (hp : otherPointer o ≠ 0) :
    (.dataframe, otherPointer o) ∈ p.handles := by
  cases other with
  | none =>
      obtain rfl : none = o := Option.some.inj h
      exact absurd rfl hp
  | some d =>
      obtain ⟨w, hw, rfl⟩ := Option.map_eq_some_iff.mp h
      exact mem_handles_frame hw hp

end Wrappers

/-- A wrapper that passes its own check is open. -/
theorem own_open {call : ApiCall} {q : Request} (hq : call.request p = some q) (hpass : q.Passes) :
    ∀ h ∈ q.own, h ∈ p.handles := by
  intro h hmem
  have hne := hpass.2 h hmem
  cases call <;> simp only [ApiCall.request, Option.map_eq_some_iff, Option.bind_eq_some_iff,
    Option.some.injEq, reduceCtorEq] at hq
  case createRuntime => subst hq; cases hmem
  case newSession r =>
    obtain ⟨w, hw, rfl⟩ := hq
    obtain rfl := List.mem_singleton.mp hmem
    exact mem_handles_runtime hw hne
  case sql s query | registerCsv s name path | registerParquet s name path =>
    obtain ⟨w, hw, rfl⟩ := hq
    obtain rfl := List.mem_singleton.mp hmem
    exact mem_handles_session hw hne
  case transform d op | count d | collect d env =>
    obtain ⟨w, hw, rfl⟩ := hq
    obtain rfl := List.mem_singleton.mp hmem
    exact mem_handles_frame hw hne
  case combine d other op =>
    obtain ⟨w, hw, o, ho, rfl⟩ := hq
    rcases List.mem_cons.mp hmem with rfl | hmem
    · exact mem_handles_frame hw hne
    · obtain rfl := List.mem_singleton.mp hmem
      exact mem_handles_operand ho hne

/-- A call needs an object whose wrapper is not open. -/
def NeedsClosed (p : Process T) (s : Step T) : Prop :=
  ∃ q, s.2.request p = some q ∧ ∃ h ∈ q.handles, h ∉ p.handles

/-- Only live objects are passed to native functions, and a call that needs
another one throws before it enters any. -/
structure Safe (p : Process T) (s : Step T) : Prop where
  live : ∀ events c, (p.after s).native.trace = p.native.trace ++ events → .call c ∈ events →
    ∀ h ∈ c.handles, p.native.kind? h.2 = some h.1
  early : p.halted = false → p.NeedsClosed s →
    (∃ t, p.reply s = some (.error (.thrown t))) ∧ (p.after s).native.trace = p.native.trace

/-- If the call passes its own checks, the runtime it passes on is still
open. -/
def RuntimeOpen (p : Process T) (s : Step T) : Prop :=
  p.halted = false → ∀ q, s.2.request p = some q → q.Passes → ∀ h ∈ q.copied, h ∈ p.handles

/-- A step that enters no native function passes nothing on. -/
private theorem safe_of_no_call (rest : List Event) (hno : ∀ c, .call c ∉ rest)
    (htrace : (p.after s).native.trace = p.native.trace ++ rest)
    (hearly : p.halted = false → p.NeedsClosed s →
      (∃ t, p.reply s = some (.error (.thrown t))) ∧ (p.after s).native.trace = p.native.trace) :
    p.Safe s := by
  refine ⟨fun events c he hc => ?_, hearly⟩
  rw [htrace, List.append_cancel_left_eq] at he
  exact absurd (he ▸ hc) (hno c)

/-- A step that asks for nothing is safe. -/
private theorem safe_iff_of_no_request (rest : List Event) (hno : ∀ c, .call c ∉ rest)
    (htrace : (p.after s).native.trace = p.native.trace ++ rest) (hq : s.2.request p = none) :
    p.Safe s ↔ p.RuntimeOpen s := by
  have hnone : ∀ q, s.2.request p ≠ some q := by simp [hq]
  refine iff_of_true (safe_of_no_call rest hno htrace ?_) ?_
  · exact fun _ ⟨q, hq', _⟩ => absurd hq' (hnone q)
  · exact fun _ q hq' => absurd hq' (hnone q)

/-- A step that enters a native function passes on what is live exactly when
the copied runtime pointer is. -/
private theorem safe_iff_of_call (ho : p.Owned) (hh : p.halted = false) {q : Request} {c : Downcall}
    (rest : List Event) (hq : s.2.request p = some q) (hpass : q.Passes)
    (hc : c.handles = q.handles) (hno : ∀ c', .call c' ∉ rest)
    (htrace : (p.after s).native.trace = p.native.trace ++ .call c :: rest) :
    p.Safe s ↔ p.RuntimeOpen s := by
  refine ⟨fun hs _ q' hq' _ h hmem => ?_, fun hopen => ?_⟩
  · obtain rfl : q = q' := Option.some.inj (hq.symm.trans hq')
    refine (ho.alive h.1 h.2).mp (hs.live _ c htrace List.mem_cons_self h ?_)
    rw [hc]
    exact List.mem_append.mpr (.inl hmem)
  · -- what is passed on is either checked or the runtime
    have hall : ∀ h ∈ q.handles, h ∈ p.handles := fun h hmem =>
      (List.mem_append.mp hmem).elim (hopen hh q hq hpass h) (own_open hq hpass h)
    refine ⟨fun events c' he hc' h hmem => ?_, fun _ ⟨q', hq', h, hmem, hnot⟩ => ?_⟩
    · rw [htrace, List.append_cancel_left_eq] at he
      rw [← he, List.mem_cons] at hc'
      obtain rfl : c' = c := by simpa [hno] using hc'
      exact (ho.alive h.1 h.2).mpr (hall h (hc ▸ hmem))
    · obtain rfl : q = q' := Option.some.inj (hq.symm.trans hq')
      exact absurd (hall h hmem) hnot

/-- **One step** passes on live objects only, exactly if the runtime it
passes on is open. -/
theorem safe_iff_runtimeOpen (ho : p.Owned) (s : Step T) : p.Safe s ↔ p.RuntimeOpen s := by
  cases hh : p.halted with
  | true =>
      refine iff_of_true (safe_of_no_call [] (by simp) ?_ (by simp [hh])) (by
        simp [RuntimeOpen, hh])
      rw [after_of_halted hh, List.append_nil]
  | false =>
      have hs := (transition_of_running ho.tidy hh s).1
      generalize hr : p.reply s = r at hs
      generalize hp' : p.after s = p' at hs
      cases hs with
      | idle hq hc hu =>
          refine safe_iff_of_no_request [] (by simp) ?_ hq
          rw [hp', hu.native.trace, List.append_nil]
      | rejected hq hn hu =>
          refine iff_of_true (safe_of_no_call [] (by simp) ?_ ?_) ?_
          · rw [hp', hu.native.trace, List.append_nil]
          · exact fun _ _ => ⟨⟨_, hr⟩, by rw [hp', hu.native.trace]⟩
          · intro _ q hq' hpass
            rw [hq, Option.some.injEq] at hq'
            exact absurd (hq' ▸ hpass) hn
      | called hq hpass hc hk hn hp =>
          exact safe_iff_of_call ho hh [] hq hpass hc (by simp) (by rw [hp']; exact hn.trace)
      | @created q c k o _ hq hpass hc hk hkind hn hp =>
          refine safe_iff_of_call ho hh [.alloc o.kind p.native.next] hq hpass hc (by simp) ?_
          rw [hp', hn.trace, Native.trace_box, Native.trace_log, List.append_assoc]
          rfl
      | @closed h _ hclose hn hp =>
          refine safe_iff_of_no_request [.free h.1 h.2] (by simp) ?_
            (ApiCall.request_of_closes hclose)
          rw [hp', hn, Native.trace_unbox]

/-- **No stale pointer.**  In every run, only live objects reach native code
and every call that needs another one fails before, if and only if no call
that passes its own checks is made on a session or a frame whose runtime has
been closed. -/
theorem no_stale_pointer_iff (steps : List (Step T)) :
    AllSteps after Safe start steps ↔ AllSteps after RuntimeOpen start steps :=
  allSteps_congr (I := Process.Owned) (fun _ s h _ => h.after s)
    (fun _ s h => safe_iff_runtimeOpen h s) owned_start steps

/-- A run that closes a runtime before its session and its frame. -/
def closedEarly : List (Step planTypes) :=
  [.createRuntime, .newSession 0, .sql 0 (some (encodeUtf16 "SELECT 1".toList)),
    .closeRuntime 0].map (planEngine, ·)

/-- A call that passes the dangling pointer of the closed runtime on is not
safe: what is still open is the session at address 2 and the frame at 3. -/
private theorem not_safe_of_copied {call : ApiCall} {q : Request}
    (hq : call.request (start.run closedEarly) = some q) (hpass : q.Passes)
    (hcopied : (.runtime, 1) ∈ q.copied) :
    ¬ AllSteps after Safe start (closedEarly ++ [(planEngine, call)]) := by
  intro hall
  have hsafe := allSteps_iff.mp hall closedEarly (planEngine, call) [] rfl
  have hopen := (safe_iff_runtimeOpen (owned_run closedEarly) _).mp hsafe
  have hrunning : (start.run closedEarly).halted = false := by decide +kernel
  have hhandles : (start.run closedEarly).handles = [(.session, 2), (.dataframe, 3)] := by
    decide +kernel
  have hlive := hopen hrunning q hq hpass _ hcopied
  rw [hhandles] at hlive
  exact absurd hlive (by decide)

/-- The dangling pointer reaches `session_sql`, `dataframe_count` and
`dataframe_collect`. -/
theorem stale_runtime_pointer :
    ¬ AllSteps after Safe start (closedEarly ++
      [(planEngine, .sql 0 (some (encodeUtf16 "SELECT 1".toList)))]) ∧
    ¬ AllSteps after Safe start (closedEarly ++ [(planEngine, .count 0)]) ∧
    ¬ AllSteps after Safe start (closedEarly ++ [(planEngine, .collect 0 ⟨none, none, none⟩)]) := by
  have hsession : (start.run closedEarly).sessions[0]? = some ⟨2, 1⟩ := by decide +kernel
  have hframe : (start.run closedEarly).frame? 0 = some ⟨3, 1, false⟩ := by decide +kernel
  refine ⟨?_, ?_, ?_⟩
  · exact not_safe_of_copied (by rw [ApiCall.request, hsession]; rfl)
      (by simp [ApiCall.sessionRequest, Request.Passes, JArg.Given]) List.mem_cons_self
  · exact not_safe_of_copied (by rw [ApiCall.request, hframe]; rfl)
      (by simp [ApiCall.frameRequest, Request.Passes]) List.mem_cons_self
  · exact not_safe_of_copied (by rw [ApiCall.request, hframe]; rfl)
      (by simp [ApiCall.frameRequest, Request.Passes]) List.mem_cons_self

end Process

end DataFusionPanama
