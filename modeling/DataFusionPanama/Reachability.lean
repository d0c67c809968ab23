import DataFusionPanama.Base.Run
import DataFusionPanama.Java.Effect

/-!
# DataFusionPanama.Reachability

Threads, frames and the `Cleaner`.  A thread works on the pointer of a
frame, not on its wrapper, and the collector goes by wrappers: one that no
thread will use again is cleaned, whatever has become of its pointer.  So
what protects a frame during a native call is a use of its wrapper *after*
the call.

The methods that make a frame have one: `new DataFusionDataFrameImpl(dfPtr,
runtimePointer)` reads a field of the receiver.  `count` and `collect` have
none, and no method has one of its second operand.  `Operation.Exposes` is
that list of gaps, and the runs in which no frame is freed under a call are
those in which the `Cleaner` never comes through one of them.
-/

namespace DataFusionPanama

variable {T : Types}

/-! ## operations -/

/-- A call of a frame's method on wrappers. -/
inductive Operation where
  | transform (op : UnaryOp JArg JArgs) (this : Nat)
  | combine (op : BinaryOp (Option JoinType) JArgs) (this other : Nat)
  | count (this : Nat)
  | collect (this : Nat)
  deriving DecidableEq

namespace Operation

def receiver : Operation → Nat
  | .transform _ this | .combine _ this _ | .count this | .collect this => this

/-- The wrappers whose `nativePointer()` is passed on. -/
def operands : Operation → List Nat
  | .transform _ this | .count this | .collect this => [this]
  | .combine _ this other => [this, other]

/-- After the call the receiver's `runtimePointer` is read, for the wrapper
of the result. -/
def makesFrame : Operation → Bool
  | .transform .. | .combine .. => true
  | .count _ | .collect _ => false

/-- The operands that are not used after the call. -/
def Exposes : Operation → Nat → Prop
  | .transform .., _ => False
  | .combine _ this other, w => w = other ∧ w ≠ this
  | .count this, w | .collect this, w => w = this

/-- An operand is exposed or it is the receiver, with a use to come. -/
theorem exposes_or {op : Operation} {w : Nat} (h : w ∈ op.operands) :
    op.Exposes w ∨ op.makesFrame = true ∧ w = op.receiver := by
  cases op with
  | transform op this => exact .inr ⟨rfl, List.mem_singleton.mp h⟩
  | combine op this other =>
      by_cases hw : w = this
      · exact .inr ⟨rfl, hw⟩
      · obtain h | h := List.mem_pair.mp h
        · exact absurd h hw
        · exact .inl ⟨h, hw⟩
  | count this => exact .inl (List.mem_singleton.mp h)
  | collect this => exact .inl (List.mem_singleton.mp h)

/-- A wrapper that is exposed is an operand. -/
theorem mem_operands {op : Operation} {w : Nat} (h : op.Exposes w) : w ∈ op.operands := by
  cases op with
  | transform op this => exact h.elim
  | combine op this other => exact List.mem_pair.mpr (.inr h.1)
  | count this => exact List.mem_singleton.mpr h
  | collect this => exact List.mem_singleton.mpr h

end Operation

/-! ## threads -/

/-- Where a thread is. -/
inductive Pc where
  | idle
  /-- The pointers have been read. -/
  | read (op : Operation) (args : List Addr)
  | inCall (op : Operation) (args : List Addr)
  /-- The call has ended; the wrapper of its result is to be made. -/
  | returned (op : Operation)
  deriving DecidableEq

namespace Pc

/-- The operation whose pointers the thread holds. -/
def holds : Pc → Option (Operation × List Addr)
  | .read op args | .inCall op args => some (op, args)
  | .idle | .returned _ => none

/-- The rest of the current method uses the wrapper. -/
def Uses : Pc → Nat → Prop
  | .idle, _ => False
  | .read op _, w | .inCall op _, w | .returned op, w => op.makesFrame = true ∧ w = op.receiver

instance (w : Nat) : (pc : Pc) → Decidable (pc.Uses w)
  | .idle => inferInstanceAs (Decidable False)
  | .read op _ | .inCall op _ | .returned op =>
      inferInstanceAs (Decidable (op.makesFrame = true ∧ w = op.receiver))

/-- A method that makes a frame uses its receiver to the end. -/
theorem uses_of_holds {pc : Pc} {op : Operation} {args : List Addr}
    (h : (op, args) ∈ pc.holds) {w : Nat} (hop : op.makesFrame = true ∧ w = op.receiver) :
    pc.Uses w := by
  cases pc with
  | idle => cases h
  | returned op' => cases h
  | read op' args' => cases h; exact hop
  | inCall op' args' => cases h; exact hop

end Pc

/-- A thread, with the frames its later code refers to. -/
structure Thread where
  refs : List Nat
  pc : Pc
  deriving DecidableEq

/-- The frames of a process and its threads. -/
structure World (T : Types) where
  native : Native T
  wrappers : List DataFusionDataFrameImpl
  threads : List Thread

namespace World

/-- Some threads, and no frames yet. -/
def start (threads : Nat) : World T := ⟨.empty, [], List.replicate threads ⟨[], .idle⟩⟩

variable (s : World T)

/-- Some thread will use the wrapper again. -/
def Reachable (w : Nat) : Prop := ∃ th ∈ s.threads, w ∈ th.refs ∨ th.pc.Uses w

instance (w : Nat) : Decidable (s.Reachable w) :=
  inferInstanceAs (Decidable (∃ th ∈ s.threads, w ∈ th.refs ∨ th.pc.Uses w))

/-- The `Cleaner` may run the action of a wrapper once, when nothing will
use the wrapper again. -/
def Cleanable (w : Nat) (x : DataFusionDataFrameImpl) : Prop :=
  x.cleaned = false ∧ ¬ s.Reachable w

instance (w : Nat) (x : DataFusionDataFrameImpl) : Decidable (s.Cleanable w x) :=
  inferInstanceAs (Decidable (_ ∧ _))

/-- What `nativePointer()` of a wrapper returns, unless it throws. -/
def nativePointer (w : Nat) : Option Addr := do
  let x ← s.wrappers[w]?
  (x.nativePointer.exec s.native).1.toOption

def setThread (t : Nat) (th : Thread) : World T := { s with threads := s.threads.set t th }

/-- A new frame, and the thread that has it is idle again.  The box of the
frame is made with its wrapper: no one else knows it before. -/
def addFrame (t : Nat) (th : Thread) (df : T.Plan) (runtimePointer : Addr) : World T :=
  { native := s.native.box (.dataframe df)
    wrappers := s.wrappers ++ [.new s.native.next runtimePointer]
    threads := s.threads.set t ⟨s.wrappers.length :: th.refs, .idle⟩ }

/-- The `Cleaner` runs the action of a wrapper. -/
def cleanWrapper (w : Nat) (x : DataFusionDataFrameImpl) : World T :=
  match x.clean.exec s.native with
  | (.ok x, n) => { s with native := n, wrappers := s.wrappers.set w x }
  | (.error _, _) => s

end World

/-! ## steps -/

/-- What a thread does. -/
inductive Act (T : Types) where
  /-- A session hands the thread a new frame. -/
  | sql (df : T.Plan) (runtimePointer : Addr)
  /-- An operation starts and the pointers are read. -/
  | start (op : Operation)
  /-- ... and ends with an exception before the call. -/
  | throw
  | begin
  | finish
  /-- The result is unwrapped: a frame to wrap up, or an exception. -/
  | unwrap (result : Option T.Plan)
  /-- The last use of a reference is over. -/
  | drop (w : Nat)

inductive Action (T : Types) where
  | thread (t : Nat) (act : Act T)
  /-- One thread passes a reference to another. -/
  | share (t t' w : Nat)
  | clean (w : Nat)

namespace World

/-- A step of a thread.  One that is not possible changes nothing. -/
def act (s : World T) (t : Nat) (th : Thread) : Act T → World T
  | .sql df runtimePointer => match th.pc with
      | .idle => s.addFrame t th df runtimePointer
      | _ => s
  | .start op => match th.pc, op.operands.mapM s.nativePointer with
      | .idle, some args =>
          if ∀ w ∈ op.operands, w ∈ th.refs then s.setThread t { th with pc := .read op args }
          else s
      | _, _ => s
  | .throw => match th.pc with
      | .read _ _ => s.setThread t { th with pc := .idle }
      | _ => s
  | .begin => match th.pc with
      | .read op args => s.setThread t { th with pc := .inCall op args }
      | _ => s
  | .finish => match th.pc with
      | .inCall op _ =>
          s.setThread t { th with pc := if op.makesFrame then .returned op else .idle }
      | _ => s
  | .unwrap result => match th.pc with
      | .returned op => match result, s.wrappers[op.receiver]? with
          | some df, some x => s.addFrame t th df x.runtimePointer
          | _, _ => s.setThread t { th with pc := .idle }
      | _ => s
  | .drop w => s.setThread t { th with refs := th.refs.filter (· ≠ w) }

def step (s : World T) : Action T → World T
  | .thread t a => match s.threads[t]? with
      | some th => s.act t th a
      | none => s
  | .share t t' w => match s.threads[t]?, s.threads[t']? with
      | some th, some th' =>
          if w ∈ th.refs then s.setThread t' { th' with refs := w :: th'.refs } else s
      | _, _ => s
  | .clean w => match s.wrappers[w]? with
      | some x => if s.Cleanable w x then s.cleanWrapper w x else s
      | none => s

/-! ## the property and the condition -/

/-- No pointer that is an argument of a call in progress has been freed. -/
def Sound (s : World T) : Prop :=
  ∀ th ∈ s.threads, ∀ op args, th.pc = .inCall op args →
    ∀ p ∈ args, s.native.kind? p = some .dataframe

/-- The `Cleaner` does not free a frame whose pointer a thread holds for a
call that leaves it exposed. -/
def Pinned (s : World T) : Action T → Prop
  | .clean w => ∀ x, s.wrappers[w]? = some x → s.Cleanable w x →
      ∀ th ∈ s.threads, ∀ held ∈ th.pc.holds, ¬ held.1.Exposes w
  | _ => True

/-! ## lists side by side -/

/-- What a list is mapped to, one by one. -/
theorem forall₂_of_mapM {α β : Type} {f : α → Option β} {as : List α} {bs : List β}
    (h : as.mapM f = some bs) : List.Forall₂ (fun a b => f a = some b) as bs := by
  induction as generalizing bs with
  | nil => cases h; exact .nil
  | cons a as ih =>
      rw [List.mapM_cons] at h
      obtain ⟨b, hb, h⟩ := Option.bind_eq_some_iff.mp h
      obtain ⟨bs', hbs, h⟩ := Option.bind_eq_some_iff.mp h
      cases h
      exact .cons hb (ih hbs)

/-- Every element on the right has its counterpart on the left. -/
theorem exists_left_of_forall₂ {α β : Type} {R : α → β → Prop} {as : List α} {bs : List β}
    (h : List.Forall₂ R as bs) {b : β} (hb : b ∈ bs) : ∃ a ∈ as, R a b := by
  induction h with
  | nil => cases hb
  | cons hr _ ih =>
      cases hb with
      | head => exact ⟨_, List.mem_cons_self, hr⟩
      | tail _ hb =>
          obtain ⟨a, ha, hab⟩ := ih hb
          exact ⟨a, List.mem_cons_of_mem _ ha, hab⟩

/-- Every element on the left has its counterpart on the right. -/
theorem exists_right_of_forall₂ {α β : Type} {R : α → β → Prop} {as : List α} {bs : List β}
    (h : List.Forall₂ R as bs) {a : α} (ha : a ∈ as) : ∃ b ∈ bs, R a b :=
  exists_left_of_forall₂ h.flip ha

/-! ## the invariant -/

/-- A wrapper with a pointer. -/
def Open (wrappers : List DataFusionDataFrameImpl) (w : Nat) (p : Addr) : Prop :=
  p ≠ 0 ∧ ∃ x, wrappers[w]? = some x ∧ x.pointer = p

/-- A pointer that is returned is one of an open wrapper. -/
theorem open_of_nativePointer {s : World T} {w : Nat} {p : Addr} (h : s.nativePointer w = some p) :
    Open s.wrappers w p := by
  unfold nativePointer at h
  obtain ⟨x, hx, hp⟩ := Option.bind_eq_some_iff.mp h
  unfold DataFusionDataFrameImpl.nativePointer openPointer at hp
  split at hp
  · cases hp
  · next h0 =>
    cases hp
    exact ⟨h0, x, hx, rfl⟩

/-- A new wrapper is the only one that is newly open. -/
theorem open_append {ws : List DataFusionDataFrameImpl} {x : DataFusionDataFrameImpl} {w : Nat}
    {p : Addr} : Open (ws ++ [x]) w p → Open ws w p ∨ w = ws.length ∧ p = x.pointer := by
  rintro ⟨h0, y, hy, rfl⟩
  rcases Nat.lt_trichotomy w ws.length with hlt | rfl | hgt
  · rw [List.getElem?_append_left hlt] at hy
    exact .inl ⟨h0, y, hy, rfl⟩
  · rw [List.getElem?_concat_length] at hy
    cases hy
    exact .inr ⟨rfl, rfl⟩
  · rw [List.getElem?_eq_none (by rw [List.length_append]; exact hgt)] at hy
    cases hy

/-- An open wrapper stays open when another is made. -/
theorem Open.append {ws : List DataFusionDataFrameImpl} {w : Nat} {p : Addr} (h : Open ws w p)
    (x : DataFusionDataFrameImpl) : Open (ws ++ [x]) w p := by
  obtain ⟨h0, y, hy, hp⟩ := h
  obtain ⟨hlt, -⟩ := List.getElem?_eq_some_iff.mp hy
  exact ⟨h0, y, (List.getElem?_append_left hlt).trans hy, hp⟩

/-- A wrapper whose pointer is cleared is not open, and no other changes. -/
theorem open_set {ws : List DataFusionDataFrameImpl} {x : DataFusionDataFrameImpl}
    (hx : x.pointer = 0) {w w' : Nat} {p : Addr} :
    Open (ws.set w x) w' p ↔ w' ≠ w ∧ Open ws w' p := by
  by_cases hw : w' = w
  · subst hw
    refine ⟨fun ⟨h0, y, hy, hp⟩ => ?_, fun h => absurd rfl h.1⟩
    rw [List.getElem?_set_self'] at hy
    obtain ⟨_, -, rfl⟩ := Option.map_eq_some_iff.mp hy
    exact absurd (hp.symm.trans hx) h0
  · rw [Open, Open, List.getElem?_set_ne (Ne.symm hw)]
    exact ⟨fun h => ⟨hw, h⟩, fun h => h.2⟩

/-- The pointers of wrappers are live and distinct, and the pointers a
thread holds are those of the operands. -/
structure Inv (s : World T) : Prop where
  live : ∀ w p, Open s.wrappers w p → s.native.kind? p = some .dataframe
  distinct : ∀ w w' p, Open s.wrappers w p → Open s.wrappers w' p → w = w'
  held : ∀ th ∈ s.threads, ∀ h ∈ th.pc.holds, List.Forall₂ (Open s.wrappers) h.1.operands h.2

/-- The invariant holds at the start. -/
theorem inv_start (threads : Nat) : (start threads : World T).Inv where
  live w p := fun ⟨_, x, hx, _⟩ => by cases hx
  distinct w w' p := fun ⟨_, x, hx, _⟩ => by cases hx
  held th hth h hh := by
    rw [List.eq_of_mem_replicate hth] at hh
    cases hh

variable {s : World T}

/-- What a thread in a call has passed on is live. -/
theorem Inv.sound (h : s.Inv) : s.Sound := by
  intro th hth op args hpc p hp
  have hheld := h.held th hth (op, args) (by rw [hpc]; rfl)
  obtain ⟨w, -, hw⟩ := exists_left_of_forall₂ hheld hp
  exact h.live w p hw

/-- A thread moves on. -/
theorem Inv.setThread (h : s.Inv) (t : Nat) {th : Thread}
    (hth : ∀ held ∈ th.pc.holds, List.Forall₂ (Open s.wrappers) held.1.operands held.2) :
    (s.setThread t th).Inv :=
  { h with
    held := fun th' hmem => by
      rcases List.mem_or_eq_of_mem_set hmem with hmem | rfl
      · exact h.held th' hmem
      · exact hth }

/-- The box of a new frame is one that no wrapper points to. -/
theorem Inv.addFrame (h : s.Inv) (t : Nat) (th : Thread) (df : T.Plan) (runtimePointer : Addr) :
    (s.addFrame t th df runtimePointer).Inv where
  live w p hw := by
    show (s.native.box _).kind? p = _
    rw [Native.kind?_box]
    split
    · rfl
    · next hp =>
      rcases open_append hw with hw | ⟨-, rfl⟩
      · exact h.live w p hw
      · exact absurd rfl hp
  distinct w w' p hw hw' := by
    -- an old wrapper cannot have the new pointer
    have hnew : ∀ w, ¬ Open s.wrappers w s.native.next := fun w hw => by
      have := h.live w _ hw
      rw [Native.kind?_next] at this
      cases this
    rcases open_append hw with hw | ⟨hw, hp⟩ <;> rcases open_append hw' with hw' | ⟨hw', hp'⟩
    · exact h.distinct w w' p hw hw'
    · subst hp'
      exact absurd hw (hnew w)
    · subst hp
      exact absurd hw' (hnew w')
    · exact hw.trans hw'.symm
  held th' hmem held hh := by
    rcases List.mem_or_eq_of_mem_set hmem with hmem | rfl
    · exact (h.held th' hmem held hh).imp fun w p hw => hw.append _
    · cases hh

/-- A thread keeps the invariant, whatever it does. -/
theorem Inv.act (h : s.Inv) {t : Nat} {th : Thread} (hth : th ∈ s.threads) (a : Act T) :
    (s.act t th a).Inv := by
  unfold World.act
  cases a with
  | sql df runtimePointer =>
      dsimp only
      split
      · exact h.addFrame t th df runtimePointer
      · exact h
  | start op =>
      dsimp only
      split
      · next args _ hargs =>
        split
        · refine h.setThread t fun held hh => ?_
          cases hh
          exact (forall₂_of_mapM hargs).imp fun w p hw => open_of_nativePointer hw
        · exact h
      · exact h
  | throw =>
      dsimp only
      split
      · exact h.setThread t fun held hh => by cases hh
      · exact h
  | begin =>
      dsimp only
      split
      · next op args hpc =>
        refine h.setThread t fun held hh => ?_
        cases hh
        exact h.held th hth (op, args) (by rw [hpc]; rfl)
      · exact h
  | finish =>
      dsimp only
      split
      · next op args hpc =>
        refine h.setThread t fun held hh => ?_
        cases hop : op.makesFrame <;> rw [hop] at hh <;> cases hh
      · exact h
  | unwrap result =>
      dsimp only
      split
      · split
        · exact h.addFrame t th _ _
        · exact h.setThread t fun held hh => by cases hh
      · exact h
  | drop w => exact h.setThread t fun held hh => h.held th hth held hh

/-- What the Cleaner does to a wrapper it may clean. -/
theorem cleanWrapper_of_cleanable {w : Nat} {x : DataFusionDataFrameImpl}
    (hc : s.Cleanable w x) :
    s.cleanWrapper w x =
      { s with
        native := s.native.release .dataframe x.pointer
        wrappers := s.wrappers.set w ⟨0, x.runtimePointer, true⟩ } := by
  rw [cleanWrapper, exec_clean_of_not hc.1]

/-- A frame that nothing will use again and no call holds is freed. -/
theorem Inv.cleanWrapper (h : s.Inv) {w : Nat} {x : DataFusionDataFrameImpl}
    (hx : s.wrappers[w]? = some x) (hc : s.Cleanable w x)
    (hpin : ∀ th ∈ s.threads, ∀ held ∈ th.pc.holds, ¬ held.1.Exposes w) :
    (s.cleanWrapper w x).Inv := by
  rw [cleanWrapper_of_cleanable hc]
  refine ⟨fun w' p hw' => ?_, fun w₁ w₂ p h₁ h₂ => ?_, fun th hth held hh => ?_⟩
  · obtain ⟨hne, hw'⟩ := (open_set rfl).mp hw'
    show (s.native.release _ _).kind? p = _
    rw [Native.kind?_release]
    split
    · next hp => exact absurd (h.distinct w' w p hw' ⟨hw'.1, x, hx, hp.symm⟩) hne
    · exact h.live w' p hw'
  · exact h.distinct w₁ w₂ p ((open_set rfl).mp h₁).2 ((open_set rfl).mp h₂).2
  · have hne : ∀ w' ∈ held.1.operands, w' ≠ w := by
      rintro _ hw' rfl
      -- an operand that is still held is pinned, or the receiver of a method with a use to come
      rcases Operation.exposes_or hw' with hexp | huse
      · exact hpin th hth held hh hexp
      · exact hc.2 ⟨th, hth, .inr (Pc.uses_of_holds hh huse)⟩
    have hheld := (List.forall₂_and_left _ _).mpr ⟨hne, h.held th hth held hh⟩
    exact hheld.imp fun w' p hw' => (open_set rfl).mpr hw'

/-- One step keeps the invariant, if it frees nothing in use. -/
theorem Inv.step (h : s.Inv) (a : Action T) (hpin : s.Pinned a) : (s.step a).Inv := by
  unfold World.step
  cases a with
  | thread t a =>
      dsimp only
      split
      · next th hth => exact h.act (List.mem_of_getElem? hth) a
      · exact h
  | share t t' w =>
      dsimp only
      split
      · next th th' _ hth' =>
        split
        · exact h.setThread t' fun held hh => h.held th' (List.mem_of_getElem? hth') held hh
        · exact h
      · exact h
  | clean w =>
      dsimp only
      split
      · next x hx =>
        split
        · next hc => exact h.cleanWrapper hx hc (hpin x hx hc)
        · exact h
      · exact h

/-! ## runs -/

/-- No call in progress works on a freed frame, and none will that a thread
may begin now. -/
def Safe (s : World T) : Prop := s.Sound ∧ ∀ t, (s.step (.thread t .begin)).Sound

/-- In a state with the invariant no pointer in use is dangling. -/
theorem Inv.safe (h : s.Inv) : s.Safe :=
  ⟨h.sound, fun t => (h.step (.thread t .begin) trivial).sound⟩

/-- A frame that is freed while it is exposed: the call that holds its
pointer works on it, now or as soon as it begins. -/
theorem not_safe_of_exposed (h : s.Inv) {w : Nat} {x : DataFusionDataFrameImpl}
    (hx : s.wrappers[w]? = some x) (hc : s.Cleanable w x) {th : Thread} (hth : th ∈ s.threads)
    {op : Operation} {args : List Addr} (hh : (op, args) ∈ th.pc.holds) (hexp : op.Exposes w) :
    ¬ (s.cleanWrapper w x).Safe := by
  rw [cleanWrapper_of_cleanable hc]
  -- the pointer of the wrapper is among those the thread holds
  obtain ⟨p, hp, hw⟩ := exists_right_of_forall₂ (h.held th hth _ hh) (Operation.mem_operands hexp)
  obtain ⟨-, y, hy, rfl⟩ := hw
  cases hx.symm.trans hy
  have hfreed : (s.native.release .dataframe x.pointer).kind? x.pointer ≠ some .dataframe := by
    rw [Native.kind?_release, if_pos rfl]
    exact fun h => by cases h
  rintro ⟨hsound, hbegin⟩
  obtain ⟨t, ht⟩ := List.mem_iff_getElem?.mp hth
  cases hpc : th.pc with
  | idle => rw [hpc] at hh; cases hh
  | returned op' => rw [hpc] at hh; cases hh
  | inCall op' args' =>
      rw [hpc] at hh
      cases hh
      exact hfreed (hsound th hth op args hpc _ hp)
  | read op' args' =>
      rw [hpc] at hh
      cases hh
      have hb := hbegin t
      unfold World.step World.act at hb
      simp only [ht, hpc] at hb
      exact hfreed (hb { th with pc := .inCall op args }
        (List.mem_of_getElem? (List.getElem?_set_self (List.getElem?_eq_some_iff.mp ht).1)) op args
        rfl _ hp)

/-- A step is safe exactly when it frees nothing in use. -/
theorem safe_step_iff (h : s.Inv) (a : Action T) : s.Pinned a ↔ (s.step a).Safe := by
  refine ⟨fun hpin => (h.step a hpin).safe, fun hsafe => ?_⟩
  cases a with
  | thread t a => trivial
  | share t t' w => trivial
  | clean w =>
      intro x hx hc th hth held hh hexp
      refine not_safe_of_exposed h hx hc hth hh hexp ?_
      unfold World.step at hsafe
      simp only [hx, if_pos hc] at hsafe
      exact hsafe

/-- No call ever works on a freed frame exactly when the `Cleaner` never
frees one whose pointer a thread holds for a call that makes no later use of
its wrapper: the receiver of `count` or `collect`, or the second operand of
`join`, `union`, `unionDistinct`, `except` or `intersect`. -/
theorem calls_safe_iff (threads : Nat) (actions : List (Action T)) :
    (∀ before after, actions = before ++ after → (before.foldl step (start threads)).Safe) ↔
      AllSteps step Pinned (start threads) actions := by
  rw [allSteps_congr (I := Inv) (fun _ a h => h.step a) (fun _ a h => safe_step_iff h a)
    (inv_start threads) actions, allSteps_iff]
  refine ⟨fun h before a after heq => ?_, fun h before after heq => ?_⟩
  · have := h (before ++ [a]) after (by rw [heq, List.append_assoc]; rfl)
    rwa [List.foldl_concat] at this
  · rcases List.eq_nil_or_concat before with rfl | ⟨before, a, rfl⟩
    · exact (inv_start threads).safe
    · rw [List.concat_eq_append, List.foldl_concat]
      exact h before a after (by rw [heq, List.concat_eq_append, List.append_assoc]; rfl)

/-- Two frames of one thread, an operation on them, and the `Cleaner` that
comes for an operand after its last use, while the call is in progress. -/
def cleanedInCall (op : Operation) (w : Nat) : List (Action planTypes) :=
  [.thread 0 (.sql (.query "SELECT 1".toList) 1), .thread 0 (.sql (.query "SELECT 2".toList) 1),
    .thread 0 (.start op), .thread 0 (.drop w), .thread 0 .begin, .clean w]

/-- `session.sql(q).count()` and `session.sql(q).collect()` on a temporary,
and `df.union(session.sql(q))` with one on the right. -/
theorem temporary_freed_in_call :
    ¬ ((cleanedInCall (.count 0) 0).foldl step (start 1)).Sound ∧
    ¬ ((cleanedInCall (.collect 0) 0).foldl step (start 1)).Sound ∧
    ¬ ((cleanedInCall (.combine .union 0 1) 1).foldl step (start 1)).Sound := by
  refine ⟨fun h => ?_, fun h => ?_, fun h => ?_⟩
  · have hlive := h ⟨[1], .inCall (.count 0) [1]⟩ (by decide) (.count 0) [1] rfl 1 (by decide)
    exact absurd hlive (by decide)
  · have hlive := h ⟨[1], .inCall (.collect 0) [1]⟩ (by decide) (.collect 0) [1] rfl 1 (by decide)
    exact absurd hlive (by decide)
  · have hlive := h ⟨[0], .inCall (.combine .union 0 1) [1, 2]⟩ (by decide) (.combine .union 0 1)
      [1, 2] rfl 2 (by decide)
    exact absurd hlive (by decide)

end World

end DataFusionPanama
