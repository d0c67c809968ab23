import DataFusionPanama.Base.Binding
import DataFusionPanama.Readers

/-!
# DataFusionPanama.Correspondence

The wrappers, the FFI layer and the Rust shim together are the library.
`Represents` relates a program to a state of `Library`: what is behind a
wrapper's pointer is what the object of the library with the same number
is, and a wrapper is closed when that is.

Every call keeps the relation and shows the same on both sides, as long as
the caller does what `Library.allows` asks; so a whole program cannot tell
the one from the other.
-/

namespace DataFusionPanama

variable {T : Types} {α β : Type}

/-! ## wrappers -/

def RuntimeStands (boxes : Store (Obj T)) (w : DataFusionRuntimeImpl) (open_ : Bool) : Prop :=
  Stands boxes w.pointer (if open_ then some .runtime else none)

/-- A copied runtime pointer is that of the runtime with this number, unless
that has been closed. -/
def Copied (runtimes : List DataFusionRuntimeImpl) (pointer : Addr) (r : Nat) : Prop :=
  ∃ w, runtimes[r]? = some w ∧ (w.pointer = pointer ∨ w.pointer = 0)

structure SessionStands (boxes : Store (Obj T)) (runtimes : List DataFusionRuntimeImpl)
    (w : DataFusionSessionImpl) (s : SessionState T) : Prop where
  stands : Stands boxes w.pointer (s.context.map .session)
  runtime : Copied runtimes w.runtimePointer s.runtime

structure FrameStands (boxes : Store (Obj T)) (runtimes : List DataFusionRuntimeImpl)
    (f : Frame) (s : FrameState T) : Prop where
  stands : Stands boxes f.wrapper.pointer (s.plan.map .dataframe)
  runtime : Copied runtimes f.wrapper.runtimePointer s.runtime
  dropped : f.dropped = s.dropped

/-- The program is in this state of the library. -/
structure Represents (p : Process T) (l : Library T) : Prop where
  runtimes : Mirrors (RuntimeStands p.native.boxes) p.runtimes l.runtimes
  sessions : Mirrors (SessionStands p.native.boxes p.runtimes) p.sessions l.sessions
  frames : Mirrors (FrameStands p.native.boxes p.runtimes) p.frames l.frames
  reads : Reads p.native.streams p.readers l.readers
  halted : p.halted = l.halted

/-- At the start both have nothing. -/
theorem represents_start : Represents (Process.start : Process T) .start :=
  ⟨.nil, .nil, .nil, reads_nil _, rfl⟩

section Stands

variable {boxes boxes' : Store (Obj T)} {a a' : Addr} {o : Option (Obj T)}

/-- A pointer stands for its object while the box is kept. -/
theorem Stands.mono (h : Stands boxes a o)
    (hb : ∀ x, o = some x → boxes.get? a = some x → boxes'.get? a = some x) :
    Stands boxes' a o := by
  cases o with
  | none =>
      obtain rfl := h.2 rfl
      exact ⟨rfl, fun _ => rfl⟩
  | some x => exact ⟨hb x rfl h.1, fun h => by cases h⟩

/-- A wrapper of this kind, open or not. -/
def OfKind (k : Kind) (o : Option (Obj T)) : Prop := ∀ x, o = some x → x.kind = k

/-- A runtime, open or not. -/
theorem ofKind_runtime (open_ : Bool) :
    OfKind .runtime (if open_ then some .runtime else none : Option (Obj T)) := by
  rintro x hx
  cases open_ <;> cases hx
  rfl

theorem ofKind_session (context : Option T.Ctx) :
    OfKind .session (context.map Obj.session : Option (Obj T)) := by
  rintro x hx
  obtain ⟨c, -, rfl⟩ := Option.map_eq_some_iff.mp hx
  rfl

theorem ofKind_frame (plan : Option T.Plan) :
    OfKind .dataframe (plan.map Obj.dataframe : Option (Obj T)) := by
  rintro x hx
  obtain ⟨c, -, rfl⟩ := Option.map_eq_some_iff.mp hx
  rfl

/-- Open wrappers of two kinds have two pointers. -/
theorem Stands.ne_of_kind {k k' : Kind} {o' : Option (Obj T)} (h : Stands boxes a o)
    (h' : Stands boxes a' o') (hk : OfKind k o) (hk' : OfKind k' o') (hne : k' ≠ k)
    (hopen : o' ≠ none) : a' ≠ a := by
  rintro rfl
  obtain ⟨x, rfl⟩ := Option.ne_none_iff_exists'.mp hopen
  cases o with
  | none =>
      have hget := h'.1
      rw [h.2 rfl] at hget
      cases hget
  | some y =>
      have hxy : x = y := Option.some.inj (h'.1.symm.trans h.1)
      exact hne ((hk' x rfl).symm.trans (hxy ▸ hk y rfl))

/-- A release empties one box, if any. -/
theorem get?_release (n : Native T) (k : Kind) (p q : Addr) :
    (n.release k p).boxes.get? q = if q = p then none else n.boxes.get? q := by
  unfold Native.release
  split
  · next hp =>
    subst hp
    split
    · next hq => rw [hq, Store.get?_null]
    · rfl
  · split
    · next hq => rw [hq]; exact Store.get?_free_self _ _
    · next hq => exact Store.get?_free_of_ne hq

@[simp] theorem streams_release (n : Native T) (k : Kind) (p : Addr) :
    (n.release k p).streams = n.streams := by
  unfold Native.release
  split <;> rfl

/-- Freeing an object leaves those at other addresses alone. -/
theorem Stands.release {n : Native T} {k : Kind} (h : Stands n.boxes a o)
    (hne : o ≠ none → a ≠ a') :
    Stands (n.release k a').boxes a o :=
  h.mono fun x hx hget => by rw [get?_release, if_neg (hne (by simp [hx])), hget]

/-- The null pointer stands for nothing. -/
theorem Stands.closed : Stands boxes 0 none := ⟨rfl, fun _ => rfl⟩

/-- Only the null pointer does. -/
theorem Stands.pointer_eq_zero_iff (h : Stands boxes a o) : a = 0 ↔ o = none := by
  refine ⟨?_, h.2⟩
  rintro rfl
  exact h.1.symm

/-- A copied runtime pointer stays one when a runtime is made. -/
theorem Copied.append {runtimes : List DataFusionRuntimeImpl} {pointer : Addr} {r : Nat}
    (h : Copied runtimes pointer r) (w : DataFusionRuntimeImpl) :
    Copied (runtimes ++ [w]) pointer r := by
  obtain ⟨w', hw', hp⟩ := h
  exact ⟨w', by rw [List.getElem?_append_left (List.getElem?_eq_some_iff.mp hw').1, hw'], hp⟩

/-- And when one is closed. -/
theorem Copied.close {runtimes : List DataFusionRuntimeImpl} {pointer : Addr} {r i : Nat}
    (h : Copied runtimes pointer r) : Copied (runtimes.set i ⟨0⟩) pointer r := by
  obtain ⟨w, hw, hp⟩ := h
  by_cases hi : i = r
  · subst hi
    exact ⟨⟨0⟩, List.getElem?_set_self (List.getElem?_eq_some_iff.mp hw).1, .inr rfl⟩
  · exact ⟨w, by rw [List.getElem?_set_ne hi, hw], hp⟩

end Stands

/-- What is found twice in a list without repetitions is one thing. -/
theorem index_eq_of_nodup {ω γ : Type} {f : ω → Option γ} {l : List ω}
    (h : (l.filterMap f).Nodup) {i j : Nat} {a b : ω} {c : γ} (hi : l[i]? = some a)
    (hj : l[j]? = some b) (ha : f a = some c) (hb : f b = some c) : i = j := by
  have hp := List.pairwise_filterMap.mp h
  rw [List.pairwise_iff_getElem] at hp
  obtain ⟨hilt, rfl⟩ := List.getElem?_eq_some_iff.mp hi
  obtain ⟨hjlt, rfl⟩ := List.getElem?_eq_some_iff.mp hj
  rcases Nat.lt_trichotomy i j with hlt | heq | hgt
  · exact absurd rfl (hp i j hilt hjlt hlt c ha c hb)
  · exact heq
  · exact absurd rfl (hp j i hjlt hilt hgt c hb c ha)

namespace Process

variable {p : Process T} {i j : Nat}

/-- Two open sessions have two pointers. -/
theorem Owned.session_eq (h : p.Owned) {w w' : DataFusionSessionImpl}
    (hi : p.sessions[i]? = some w) (hj : p.sessions[j]? = some w') (hw : w.pointer ≠ 0)
    (heq : w'.pointer = w.pointer) : i = j := by
  have hn := (List.nodup_append.mp (List.nodup_append.mp h.nodup).2.1).1
  exact index_eq_of_nodup hn hi hj (openHandle_of_ne hw)
    (by rw [DataFusionSessionImpl.handle, heq]; exact openHandle_of_ne hw)

/-- No two open runtimes share a pointer. -/
theorem Owned.runtime_eq (h : p.Owned) {w w' : DataFusionRuntimeImpl}
    (hi : p.runtimes[i]? = some w) (hj : p.runtimes[j]? = some w') (hw : w.pointer ≠ 0)
    (heq : w'.pointer = w.pointer) : i = j := by
  have hn := (List.nodup_append.mp h.nodup).1
  exact index_eq_of_nodup hn hi hj (openHandle_of_ne hw)
    (by rw [DataFusionRuntimeImpl.handle, heq]; exact openHandle_of_ne hw)

/-- No two open frames share a pointer. -/
theorem Owned.frame_eq (h : p.Owned) {f f' : Frame} (hi : p.frames[i]? = some f)
    (hj : p.frames[j]? = some f') (hf : f.wrapper.pointer ≠ 0)
    (heq : f'.wrapper.pointer = f.wrapper.pointer) : i = j := by
  have hn := (List.nodup_append.mp (List.nodup_append.mp h.nodup).2.1).2.1
  exact index_eq_of_nodup hn hi hj (openHandle_of_ne hf)
    (by rw [Frame.handle, heq]; exact openHandle_of_ne hf)

end Process

/-! ## one change at a time -/

namespace Represents

variable {p : Process T} {l : Library T} {n : Native T}

/-- Boxes that are there stay as they are. -/
theorem native (h : Represents p l)
    (hb : ∀ a x, p.native.boxes.get? a = some x → n.boxes.get? a = some x)
    (hs : n.streams = p.native.streams) : Represents { p with native := n } l :=
  { h with
    runtimes := h.runtimes.imp fun _ _ _ _ hw => hw.mono fun x _ => hb _ x
    sessions := h.sessions.imp fun _ _ _ _ hw => ⟨hw.stands.mono fun x _ => hb _ x, hw.runtime⟩
    frames := h.frames.imp fun _ _ _ _ hw =>
      ⟨hw.stands.mono fun x _ => hb _ x, hw.runtime, hw.dropped⟩
    reads := hs ▸ h.reads }

/-- The structs of the readers stay as they are. -/
theorem kept (h : Represents p l) (hb : n.boxes = p.native.boxes)
    (hs : ∀ q x, p.native.streams.get? q = some x → n.streams.get? q = some x) :
    Represents { p with native := n } l :=
  { h with
    runtimes := h.runtimes.imp fun _ _ _ _ hw => hb ▸ hw
    sessions := h.sessions.imp fun _ _ _ _ hw => ⟨hb ▸ hw.stands, hw.runtime⟩
    frames := h.frames.imp fun _ _ _ _ hw => ⟨hb ▸ hw.stands, hw.runtime, hw.dropped⟩
    reads := h.reads.mono hs }

/-- A new runtime. -/
theorem addRuntime (h : Represents p l) (hn : n.boxes = (p.native.boxes.alloc .runtime).2)
    (hs : n.streams = p.native.streams) :
    Represents ({ p with native := n }.addRuntime ⟨p.native.next⟩)
      { l with runtimes := l.runtimes ++ [true] } := by
  have hn' := h.native (n := n) (fun a x hx => by rw [hn]; exact Store.get?_alloc_of_some hx) hs
  exact
    { hn' with
      runtimes := hn'.runtimes.append ⟨by
        show n.boxes.get? _ = some .runtime
        rw [hn]
        exact Store.get?_alloc_self _ _, fun h => by cases h⟩
      sessions := hn'.sessions.imp fun _ _ _ _ hw => ⟨hw.stands, hw.runtime.append _⟩
      frames := hn'.frames.imp fun _ _ _ _ hw => ⟨hw.stands, hw.runtime.append _, hw.dropped⟩ }

/-- A new session. -/
theorem addSession (h : Represents p l) {context : T.Ctx} {pointer : Addr} {r : Nat}
    (hr : Copied p.runtimes pointer r)
    (hn : n.boxes = (p.native.boxes.alloc (.session context)).2)
    (hs : n.streams = p.native.streams) :
    Represents ({ p with native := n }.addSession ⟨p.native.next, pointer⟩)
      { l with sessions := l.sessions ++ [⟨some context, r⟩] } := by
  have hn' := h.native (n := n) (fun a x hx => by rw [hn]; exact Store.get?_alloc_of_some hx) hs
  have hnew : Stands n.boxes p.native.next (some (.session context)) :=
    ⟨by rw [hn]; exact Store.get?_alloc_self _ _, fun h => by cases h⟩
  exact { hn' with sessions := hn'.sessions.append ⟨hnew, hr⟩ }

/-- A new frame. -/
theorem addFrame (h : Represents p l) {df : T.Plan} {pointer : Addr} {r : Nat}
    (hr : Copied p.runtimes pointer r) (hn : n.boxes = (p.native.boxes.alloc (.dataframe df)).2)
    (hs : n.streams = p.native.streams) :
    Represents ({ p with native := n }.addFrame (.new p.native.next pointer))
      (Library.addFrame r l df) := by
  have hn' := h.native (n := n) (fun a x hx => by rw [hn]; exact Store.get?_alloc_of_some hx) hs
  have hnew : Stands n.boxes p.native.next (some (.dataframe df)) :=
    ⟨by rw [hn]; exact Store.get?_alloc_self _ _, fun h => by cases h⟩
  exact { hn' with frames := hn'.frames.append ⟨hnew, hr, rfl⟩ }

/-- The context of a session is replaced. -/
theorem putContext (h : Represents p l) (ho : p.Owned) {s : Nat} {w : DataFusionSessionImpl}
    {sess : SessionState T} {context : T.Ctx} (hw : p.sessions[s]? = some w)
    (hsess : SessionStands p.native.boxes p.runtimes w sess) (hopen : sess.context ≠ none)
    (hn : n.boxes = p.native.boxes.put w.pointer (.session context))
    (hs : n.streams = p.native.streams) :
    Represents { p with native := n }
      { l with sessions := l.sessions.set s { sess with context := some context } } := by
  obtain ⟨old, hold⟩ := Option.ne_none_iff_exists'.mp hopen
  have hbox : p.native.boxes.get? w.pointer = some (.session old) := by
    have h' := hsess.stands.1
    rwa [hold] at h'
  have hne : w.pointer ≠ 0 := by
    intro h0
    rw [h0] at hbox
    cases hbox
  have hkeep : ∀ a x, a ≠ w.pointer → p.native.boxes.get? a = some x → n.boxes.get? a = some x :=
    fun a x ha hx => by rw [hn, Store.get?_put_of_ne ha, hx]
  have hkind : ∀ {a : Addr} {o : Option (Obj T)} {k : Kind}, Stands p.native.boxes a o →
      OfKind k o → k ≠ .session → Stands n.boxes a o := fun {a o k} ha hk hne' =>
    ha.mono fun x hx => hkeep a x
      (hsess.stands.ne_of_kind ha (ofKind_session _) hk hne' (by simp [hx]))
  have hset : p.sessions.set s w = p.sessions := by
    obtain ⟨hlt, rfl⟩ := List.getElem?_eq_some_iff.mp hw
    exact List.set_getElem_self hlt
  exact
    { h with
      runtimes := h.runtimes.imp fun _ _ _ _ hr => hkind hr (ofKind_runtime _) (by simp)
      sessions := by
        have hm : Mirrors (SessionStands n.boxes p.runtimes) (p.sessions.set s w)
            (l.sessions.set s { sess with context := some context }) := h.sessions.set
          (fun j w' sess' hj hw' hs' => ⟨hs'.stands.mono fun x _ hget =>
            hkeep _ x (fun he => hj (ho.session_eq hw hw' hne he).symm) hget, hs'.runtime⟩)
          fun _ =>
            ⟨⟨by rw [hn]; exact Store.get?_put_self hbox, fun h => by cases h⟩, hsess.runtime⟩
        rwa [hset] at hm
      frames := h.frames.imp fun _ _ _ _ hf =>
        ⟨hkind hf.stands (ofKind_frame _) (by simp), hf.runtime, hf.dropped⟩
      reads := hs ▸ h.reads }

/-- A runtime is closed. -/
theorem closeRuntime (h : Represents p l) (ho : p.Owned) {r : Nat} {w : DataFusionRuntimeImpl}
    (hw : p.runtimes[r]? = some w) :
    Represents { p with
        native := p.native.release .runtime w.pointer, runtimes := p.runtimes.set r ⟨0⟩ }
      { l with runtimes := l.runtimes.set r false } := by
  obtain ⟨_, -, hstands⟩ := h.runtimes.get hw
  exact
    { h with
      runtimes := h.runtimes.set
        (fun j w' open' hj hw' hs => Stands.release hs fun hne he =>
          -- two open runtimes have two pointers
          hj (ho.runtime_eq hw hw' (fun h0 =>
            hne (Stands.pointer_eq_zero_iff hs |>.mp (he.trans h0))) he).symm)
        fun _ => .closed
      sessions := h.sessions.imp fun _ _ _ _ hs => ⟨hs.stands.release
        (Stands.ne_of_kind hstands hs.stands (ofKind_runtime _) (ofKind_session _) (by simp)),
        hs.runtime.close⟩
      frames := h.frames.imp fun _ _ _ _ hs => ⟨hs.stands.release
        (Stands.ne_of_kind hstands hs.stands (ofKind_runtime _) (ofKind_frame _) (by simp)),
        hs.runtime.close, hs.dropped⟩
      reads := by
        show Reads (p.native.release _ _).streams _ _
        rw [streams_release]
        exact h.reads }

/-- A session is closed. -/
theorem closeSession (h : Represents p l) (ho : p.Owned) {s : Nat} {w : DataFusionSessionImpl}
    {sess : SessionState T} (hw : p.sessions[s]? = some w)
    (hsess : SessionStands p.native.boxes p.runtimes w sess) :
    Represents { p with
        native := p.native.release .session w.pointer
        sessions := p.sessions.set s ⟨0, w.runtimePointer⟩ }
      { l with sessions := l.sessions.set s { sess with context := none } } := by
  exact
    { h with
      runtimes := h.runtimes.imp fun _ _ _ _ hr => Stands.release hr
        (hsess.stands.ne_of_kind hr (ofKind_session _) (ofKind_runtime _) (by simp))
      sessions := h.sessions.set
        (fun j w' s' hj hw' hs => ⟨hs.stands.release fun hne he =>
          hj (ho.session_eq hw hw' (fun h0 =>
            hne (hs.stands.pointer_eq_zero_iff.mp (he.trans h0))) he).symm, hs.runtime⟩)
        fun _ => ⟨.closed, hsess.runtime⟩
      frames := h.frames.imp fun _ _ _ _ hs => ⟨hs.stands.release
        (hsess.stands.ne_of_kind hs.stands (ofKind_session _) (ofKind_frame _) (by simp)),
        hs.runtime, hs.dropped⟩
      reads := by
        show Reads (p.native.release _ _).streams _ _
        rw [streams_release]
        exact h.reads }

/-- A frame is closed or cleaned. -/
theorem closeFrame (h : Represents p l) (ho : p.Owned) {d : Nat} {f : Frame} {st : FrameState T}
    (hf : p.frames[d]? = some f) (hst : FrameStands p.native.boxes p.runtimes f st)
    {f' : Frame} (hf' : f' = ⟨⟨0, f.wrapper.runtimePointer, true⟩, f.dropped⟩) :
    Represents { p with
        native := p.native.release .dataframe f.wrapper.pointer, frames := p.frames.set d f' }
      (l.setFrame d { st with plan := none }) := by
  exact
    { h with
      runtimes := h.runtimes.imp fun _ _ _ _ hr => Stands.release hr
        (hst.stands.ne_of_kind hr (ofKind_frame _) (ofKind_runtime _) (by simp))
      sessions := h.sessions.imp fun _ _ _ _ hs => ⟨hs.stands.release
        (hst.stands.ne_of_kind hs.stands (ofKind_frame _) (ofKind_session _) (by simp)),
        hs.runtime⟩
      frames := h.frames.set
        (fun j f₁ s' hj hf₁ hs => ⟨hs.stands.release fun hne he =>
          hj (ho.frame_eq hf hf₁ (fun h0 =>
            hne (hs.stands.pointer_eq_zero_iff.mp (he.trans h0))) he).symm, hs.runtime, hs.dropped⟩)
        fun _ => by subst hf'; exact ⟨.closed, hst.runtime, hst.dropped⟩
      reads := by
        show Reads (p.native.release _ _).streams _ _
        rw [streams_release]
        exact h.reads }

/-- A frame is replaced by one that stands for the same plan or is as
closed. -/
theorem setFrame (h : Represents p l) {d : Nat} {f : Frame} {st : FrameState T}
    (hst : FrameStands p.native.boxes p.runtimes f st) :
    Represents { p with frames := p.frames.set d f } (l.setFrame d st) :=
  { h with frames := h.frames.set (fun _ _ _ _ _ hs => hs) fun _ => hst }

/-- A new reader. -/
theorem addReader (h : Represents p l) {owned : Addr} {stream : Stream T}
    (hn : n.boxes = p.native.boxes) (hfresh : p.native.streams.get? owned = none)
    (hown : n.streams.get? owned = some (some stream))
    (hs : ∀ q, q ≠ owned → n.streams.get? q = p.native.streams.get? q) :
    Represents ({ p with native := n }.addReader (⟨1, [], 0⟩, ⟨owned, none, false, false⟩))
      (l.addReader stream) :=
  { h with
    runtimes := h.runtimes.imp fun _ _ _ _ hr => hn ▸ hr
    sessions := h.sessions.imp fun _ _ _ _ hs => ⟨hn ▸ hs.stands, hs.runtime⟩
    frames := h.frames.imp fun _ _ _ _ hs => ⟨hn ▸ hs.stands, hs.runtime, hs.dropped⟩
    reads := h.reads.add hfresh hown hs }

/-- A call on a reader. -/
theorem readCall (h : Represents p l) {i : Nat} {r : Arrow × RecordBatchReaderImpl T}
    {o : Option (ReaderState T)} {call : ReaderCall} (hr : p.readers[i]? = some r)
    (hend : ReaderEnds ⟨⟨p.native, r.1⟩, r.2⟩ o (call.run ⟨⟨p.native, r.1⟩, r.2⟩)) :
    Represents (p.read i call r) { l with readers := l.readers.set i o } := by
  have hboxes : (p.read i call r).native.boxes = p.native.boxes := hend.boxes
  exact
    { h with
      runtimes := h.runtimes.imp fun _ _ _ _ hr => hboxes ▸ hr
      sessions := h.sessions.imp fun _ _ _ _ hs => ⟨hboxes ▸ hs.stands, hs.runtime⟩
      frames := h.frames.imp fun _ _ _ _ hs => ⟨hboxes ▸ hs.stands, hs.runtime, hs.dropped⟩
      reads := h.reads.read hr hend }

end Represents

/-! ## one call -/

/-- What the caller sees of a call, as the methods compute it. -/
def Process.see (p : Process T) (s : Step T) : Option (Observed T) :=
  if p.halted then none else match s.2 with
    | .count d => (p.frame? d).map fun w => .count ((w.count s.1).exec p.native).1
    | .reader i call => p.readers[i]?.map fun r => call.observe ⟨⟨p.native, r.1⟩, r.2⟩
    | call => (p.perform s.1 call).1.map .called

/-- A call has ended the same way on both sides. -/
structure Shows (out : Reply × Process T) (out' : Option (Observed T) × Library T) : Prop where
  reply : out.1.map .called = out'.1
  represents : Represents out.2 out'.2

section Calls

variable {p : Process T} {l : Library T} {x : JavaM T α} {r : Except Stop β} {f : β → α}
  {boxes : Store (Obj T)} {store : Process T → α → Process T} {store' : Library T → β → Library T}

/-- A method that ends as its outcome says. -/
theorem shows_invoke (hend : Ends p.native (r.map f) boxes (x.exec p.native))
    (herror : ∀ e n, r = .error e → n.boxes = boxes → n.streams = p.native.streams →
      Represents { p with native := n } l)
    (hok : ∀ b n, r = .ok b → n.boxes = boxes → n.streams = p.native.streams →
      Represents (store { p with native := n } (f b)) (store' l b)) :
    Shows (p.invoke x store) (l.reply r store') := by
  rw [Process.invoke]
  rcases hx : x.exec p.native with ⟨r', n⟩
  rw [hx] at hend
  obtain rfl : r' = r.map f := hend.result
  cases r with
  | error e =>
      exact ⟨rfl, { herror e n rfl hend.boxes hend.streams with halted := rfl }⟩
  | ok b => exact ⟨rfl, hok b n rfl hend.boxes hend.streams⟩

/-- A method that makes an object. -/
theorem shows_make {wrap : β → Obj T} (h : Represents p l)
    (hend : Ends p.native (r.map f) (boxed wrap p.native.boxes r) (x.exec p.native))
    (hmade : ∀ b n, n.boxes = (p.native.boxes.alloc (wrap b)).2 → n.streams = p.native.streams →
      Represents (store { p with native := n } (f b)) (store' l b)) :
    Shows (p.invoke x store) (l.reply r store') := by
  refine shows_invoke hend (fun e n hr hn hs => ?_) fun b n hr hn hs => ?_
  · rw [hr] at hn
    exact h.native (fun a x hx => by rw [hn]; exact hx) hs
  · rw [hr] at hn
    exact hmade b n hn hs

/-- A call on an object, or on what corresponds to it. -/
theorem shows_on {ω ω' : Type} {R : ω → ω' → Prop} {object : Option ω} {object' : Option ω'}
    {method : ω → Reply × Process T} {method' : ω' → Option (Observed T) × Library T}
    (h : Represents p l) (hrel : Option.Rel R object object')
    (hm : ∀ w w', object = some w → object' = some w' → R w w' → Shows (method w) (method' w')) :
    Shows (p.on object method) (l.on object' method') := by
  cases hrel with
  | none => exact ⟨rfl, h⟩
  | some hR => exact hm _ _ rfl rfl hR

/-- A method that works in a session. -/
theorem shows_invokeIn (h : Represents p l) (ho : p.Owned) {s : Nat} {w : DataFusionSessionImpl}
    {sess : SessionState T} {asked : Except Stop (Outcome β × T.Ctx)}
    {finish : Store (Obj T) → Outcome β → Store (Obj T)} (hw : p.sessions[s]? = some w)
    (hsess : SessionStands p.native.boxes p.runtimes w sess)
    (hopen : ∀ o, asked = .ok o → sess.context ≠ none)
    (hend : EndsIn p.native w.pointer asked f finish (x.exec p.native))
    (hfail : ∀ boxes e, finish boxes (.error e) = boxes)
    (hok : ∀ b n l' m, Represents { p with native := m } l' → m.next = p.native.next →
      n.boxes = finish m.boxes (.ok b) → n.streams = m.streams →
      Represents (store { p with native := n } (f b)) (store' l' b)) :
    Shows (p.invoke x store) (l.replyIn s sess asked store') := by
  cases asked with
  | error e =>
      change Shows _ (l.reply (.error e) store')
      refine shows_invoke (r := .error e) (f := f) hend (fun e n _ hn hs => ?_)
        fun b n hr => by cases hr
      exact h.native (fun a x hx => by rw [hn]; exact hx) hs
  | ok o =>
      obtain ⟨o, context⟩ := o
      -- the state in which the context has been replaced
      have hput := h.putContext (n := { p.native with
        boxes := p.native.boxes.put w.pointer (.session context) }) ho hw hsess (hopen _ rfl)
          rfl rfl
      refine shows_invoke hend (fun e n hr hn hs => ?_) fun b n hr hn hs => ?_
      · cases o with
        | ok b => cases hr
        | error e => exact hput.native (fun a x hx => by rw [hn, hfail]; exact hx) hs
      · cases o with
        | error e => cases hr
        | ok b' =>
            cases hr
            exact hok b n _ _ hput (by simp [Native.next]) hn hs

/-- The runtime behind a copied pointer. -/
theorem Represents.runtime_live (h : Represents p l) {a : Addr} {i : Nat}
    (hc : Copied p.runtimes a i) (ho : l.runtimeOpen i = true) :
    p.native.boxes.get? a = some .runtime := by
  obtain ⟨w, hw, hp⟩ := hc
  obtain ⟨open_, hl, hs⟩ := h.runtimes.get hw
  rw [Library.runtimeOpen, hl] at ho
  obtain rfl : open_ = true := by simpa using ho
  rcases hp with rfl | hp
  · exact hs.1
  · exact absurd hp (Stands.ne_null hs)

/-- The frames of both sides that the program still refers to. -/
theorem Represents.frame? (h : Represents p l) (d : Nat) :
    Option.Rel (fun w st => FrameStands p.native.boxes p.runtimes ⟨w, false⟩ st) (p.frame? d)
      (l.frame? d) := by
  have hd := h.frames d
  unfold Process.frame? Library.frame?
  cases hf : p.frames[d]? with
  | none => rw [h.frames.get_none hf]; exact .none
  | some f =>
      obtain ⟨st, hst, hs⟩ := h.frames.get hf
      rw [hst]
      obtain ⟨w, dropped⟩ := f
      cases dropped with
      | true =>
          rw [Option.filter_some_neg (by simp [← hs.dropped])]
          exact .none
      | false =>
          rw [Option.filter_some_pos (by simp [← hs.dropped])]
          exact .some hs

/-- ... and those it has forgotten. -/
theorem Represents.dropped? (h : Represents p l) (d : Nat) :
    Option.Rel (fun w st => FrameStands p.native.boxes p.runtimes ⟨w, true⟩ st) (p.dropped? d)
      (l.dropped? d) := by
  unfold Process.dropped? Library.dropped?
  cases hf : p.frames[d]? with
  | none => rw [h.frames.get_none hf]; exact .none
  | some f =>
      obtain ⟨st, hst, hs⟩ := h.frames.get hf
      rw [hst]
      obtain ⟨w, dropped⟩ := f
      cases dropped with
      | true =>
          rw [Option.filter_some_pos (by simp [← hs.dropped])]
          exact .some hs
      | false =>
          rw [Option.filter_some_neg (by simp [← hs.dropped])]
          exact .none

/-- The plan of an operand. -/
theorem Represents.operand? (h : Represents p l) (other : Option Nat) :
    Option.Rel (fun o o' => OperandStands p.native.boxes o (o'.map FrameState.plan))
      (p.operand? other) (l.operand? other) := by
  cases other with
  | none => exact .some .none
  | some d =>
      have hd := h.frame? d
      show Option.Rel _ ((p.frame? d).map some) ((l.frame? d).map some)
      generalize p.frame? d = o at hd
      generalize l.frame? d = o' at hd
      cases hd with
      | none => exact .none
      | some hs => exact .some (.some hs.stands)

/-- A query that is asked is asked in an open session. -/
theorem sqlOutcome_ok {E : Engine T} {context : Option T.Ctx} {query : JArg} {o}
    (h : sqlOutcome E context query = .ok o) : context ≠ none := by
  rintro rfl
  cases query <;> cases h

/-- So is a registration. -/
theorem registerOutcome_ok {register : T.Ctx → Text → Text → Outcome Unit × T.Ctx}
    {context : Option T.Ctx} {tableName path : JArg} {o}
    (h : registerOutcome register context tableName path = .ok o) : context ≠ none := by
  rintro rfl
  cases tableName <;> cases path <;> cases h

/-- What a method of an open session is allowed to rely on. -/
theorem Represents.session_runtime (h : Represents p l) {s : Nat} {w : DataFusionSessionImpl}
    {sess : SessionState T} (hl : l.sessions[s]? = some sess)
    (hsess : SessionStands p.native.boxes p.runtimes w sess)
    (ha : (l.sessions[s]?.all fun sess => sess.context.isNone || l.runtimeOpen sess.runtime) = true)
    (hopen : sess.context ≠ none) : p.native.boxes.get? w.runtimePointer = some .runtime := by
  refine h.runtime_live hsess.runtime ?_
  rw [hl] at ha
  simpa [Option.isNone_iff_eq_none, hopen] using ha

/-- The runtime of an open frame is behind the pointer it has copied. -/
theorem Represents.frame_runtime (h : Represents p l) {d : Nat} {w : DataFusionDataFrameImpl}
    {st : FrameState T} (hl : l.frame? d = some st)
    (hst : FrameStands p.native.boxes p.runtimes ⟨w, false⟩ st)
    (ha : ((l.frame? d).all fun f => f.plan.isNone || l.runtimeOpen f.runtime) = true)
    (hopen : st.plan ≠ none) : p.native.boxes.get? w.runtimePointer = some .runtime := by
  refine h.runtime_live hst.runtime ?_
  rw [hl] at ha
  simpa [Option.isNone_iff_eq_none, hopen] using ha

/-- The registrations. -/
theorem shows_register (E : Engine T) (h : Represents p l) (ho : p.Owned) {s : Nat}
    (tableName path : JArg) {function : Addr → Addr → Addr → Addr → Downcall}
    {register : T.Ctx → Text → Text → Outcome Unit × T.Ctx}
    (hfun : ∀ rt s a b mem, (function rt s a b).body E mem = registerTable E mem register rt s a b)
    (ha : (l.sessions[s]?.all fun sess => sess.context.isNone || l.runtimeOpen sess.runtime) =
      true) :
    Shows (p.on p.sessions[s]? fun w =>
        p.invoke (w.register E function tableName path) fun p _ => p)
      (l.on l.sessions[s]? fun sess =>
        l.replyIn s sess (registerOutcome register sess.context tableName path) fun l _ => l) := by
  refine shows_on h (h.sessions s) fun w sess hw hl hs => ?_
  refine shows_invokeIn h ho hw hs (fun _ => registerOutcome_ok)
    (ends_register E p.native hfun tableName path hs.stands (h.session_runtime hl hs ha))
    (fun _ _ => rfl) fun b n l' m hm hnext hn hstreams => ?_
  exact hm.native (fun a x hx => by rw [hn]; exact hx) hstreams

/-- Closing or cleaning a frame. -/
theorem shows_clean (h : Represents p l) (ho : p.Owned) {d : Nat} {w : DataFusionDataFrameImpl}
    {dropped : Bool} {st : FrameState T} (hf : p.frames[d]? = some ⟨w, dropped⟩)
    (hst : FrameStands p.native.boxes p.runtimes ⟨w, dropped⟩ st) :
    Shows (p.invoke w.clean fun p w => { p with frames := p.frames.set d ⟨w, dropped⟩ })
      (l.reply (.ok ()) fun l _ => l.setFrame d { st with plan := none }) := by
  have htidy := ho.tidy _ (List.mem_of_getElem? hf)
  cases hc : w.cleaned with
  | true =>
      -- a frame that has been cleaned stands for nothing
      have hplan : st.plan = none := by
        have hmap := hst.stands.pointer_eq_zero_iff.mp (htidy.mp hc)
        simpa using hmap
      rw [Process.invoke, exec_clean_of_cleaned hc]
      refine ⟨rfl, h.setFrame ⟨?_, hst.runtime, hst.dropped⟩⟩
      have hs := hst.stands
      rwa [hplan] at hs
  | false =>
      rw [Process.invoke, exec_clean_of_not hc]
      exact ⟨rfl, h.closeFrame ho hf hst rfl⟩

/-- Collecting a frame. -/
theorem shows_collect (E : Engine T) (env : ArrowEnv) (h : Represents p l)
    {w : DataFusionDataFrameImpl} {plan : Option T.Plan} {lost : List (Stream T)}
    (hend : Collected p.native (collectedOutcome E plan env) lost
      ((w.collect E env).exec p.native)) :
    Shows (p.invoke (w.collect E env) Process.addReader)
      (l.reply (collectedOutcome E plan env) Library.addReader) := by
  rw [Process.invoke]
  rcases hx : (w.collect E env).exec p.native with ⟨r, n⟩
  rw [hx] at hend
  cases hr : collectedOutcome E plan env with
  | error e =>
      obtain rfl : r = .error e := (hend.failed e hr).1
      exact ⟨rfl, { h.kept hend.boxes hend.kept with halted := rfl }⟩
  | ok stream =>
      obtain ⟨owned, hreader, hfresh, hown, hothers⟩ := hend.made stream hr
      obtain rfl : r = .ok _ := hreader
      exact ⟨rfl, h.addReader hend.boxes hfresh hown hothers⟩

/-- **One call** that the caller may make ends the same on both sides. -/
theorem perform_shows (E : Engine T) (call : ApiCall) (h : Represents p l) (ho : p.Owned)
    (hcount : ∀ d, call ≠ .count d) (hreader : ∀ i c, call ≠ .reader i c)
    (ha : l.allows call = true) : Shows (p.perform E call) (l.perform E call) := by
  cases call with
  | createRuntime =>
      change Shows (p.invoke (DataFusionRuntimeImpl.create E) Process.addRuntime)
        (l.reply (seen E.runtimeNew) fun l _ => { l with runtimes := l.runtimes ++ [true] })
      exact shows_make h (ends_createRuntime E p.native) fun _ n hn hs => h.addRuntime hn hs
  | newSession r =>
      refine shows_on h (h.runtimes r) fun w open_ hw hl hs => ?_
      exact shows_make h (ends_newSession E p.native hs) fun _ n hn hs =>
        h.addSession ⟨w, hw, .inl rfl⟩ hn hs
  | closeRuntime r =>
      refine shows_on h (h.runtimes r) fun w open_ hw hl hs => ?_
      rw [Process.invoke, exec_closeRuntime]
      exact ⟨rfl, h.closeRuntime ho hw⟩
  | sql s query =>
      refine shows_on h (h.sessions s) fun w sess hw hl hs => ?_
      refine shows_invokeIn h ho hw hs (fun _ => sqlOutcome_ok)
        (ends_sql E p.native query hs.stands (h.session_runtime hl hs ha))
        (fun _ _ => rfl) fun b n l' m hm hnext hn hstreams => ?_
      rw [← hnext]
      exact hm.addFrame hs.runtime hn hstreams
  | registerCsv s tableName path =>
      exact shows_register E h ho tableName path (fun _ _ _ _ _ => rfl) ha
  | registerParquet s tableName path =>
      exact shows_register E h ho tableName path (fun _ _ _ _ _ => rfl) ha
  | closeSession s =>
      refine shows_on h (h.sessions s) fun w sess hw hl hs => ?_
      rw [Process.invoke, exec_closeSession]
      exact ⟨rfl, h.closeSession ho hw hs⟩
  | transform d op =>
      refine shows_on h (h.frame? d) fun w st hw hl hs => ?_
      exact shows_make h (ends_transform E p.native op hs.stands (h.frame_runtime hl hs ha))
        fun _ n hn hstreams => h.addFrame hs.runtime hn hstreams
  | combine d other op =>
      refine shows_on h (h.frame? d) fun w st hw hl hs => ?_
      refine shows_on h (h.operand? other) fun o o' _ _ hother => ?_
      exact shows_make h
        (ends_combine E p.native op hs.stands hother (h.frame_runtime hl hs ha))
        fun _ n hn hstreams => h.addFrame hs.runtime hn hstreams
  | count d => exact absurd rfl (hcount d)
  | collect d env =>
      refine shows_on h (h.frame? d) fun w st hw hl hs => ?_
      obtain ⟨lost, hend⟩ :=
        ends_collect E env p.native hs.stands (h.frame_runtime hl hs ha)
      exact shows_collect E env h hend
  | closeFrame d =>
      refine shows_on h (h.frame? d) fun w st hw hl hs => ?_
      exact shows_clean h ho (Process.frame?_eq_some hw) hs
  | drop d =>
      refine shows_on h (h.frame? d) fun w st hw hl hs => ?_
      exact ⟨rfl, h.setFrame ⟨hs.stands, hs.runtime, rfl⟩⟩
  | clean d =>
      refine shows_on h (h.dropped? d) fun w st hw hl hs => ?_
      exact shows_clean h ho (Process.dropped?_eq_some hw) hs
  | reader i c => exact absurd rfl (hreader i c)

end Calls

/-! ## whole programs -/

/-- What a program and the library that represents it have in common. -/
structure Agrees (p : Process T) (l : Library T) : Prop where
  owned : p.Owned
  represents : Represents p l

/-- At the start the two sides agree. -/
theorem agrees_start : Agrees (Process.start : Process T) .start :=
  ⟨Process.owned_start, represents_start⟩

section Step

variable {p : Process T} {l : Library T}

/-- What a running process shows of a call. -/
theorem see_of_running (h : p.halted = false) (s : Step T) :
    p.see s = match s.2 with
      | .count d => (p.frame? d).map fun w => .count ((w.count s.1).exec p.native).1
      | .reader i call => p.readers[i]?.map fun r => call.observe ⟨⟨p.native, r.1⟩, r.2⟩
      | call => (p.perform s.1 call).1.map .called := by
  rw [Process.see, h]
  rfl

/-- A count shows the number, and changes nothing. -/
theorem agrees_count (h : Agrees p l) (hp : p.halted = false) (E : Engine T) (d : Nat)
    (ha : l.allows (.count d) = true) :
    p.see (E, .count d) = (l.perform E (.count d)).1 ∧
      Represents (p.perform E (.count d)).2 (l.perform E (.count d)).2 := by
  rw [see_of_running hp]
  have hrel := h.represents.frame? d
  cases hw : p.frame? d with
  | none =>
      rw [hw] at hrel
      have hl : l.frame? d = none := by
        cases hl : l.frame? d with
        | none => rfl
        | some st => rw [hl] at hrel; cases hrel
      refine ⟨?_, ?_⟩
      · simp only [hw, Library.perform, Library.on, hl]
        rfl
      · simp only [Process.perform, Process.on, hw, Library.perform, Library.on, hl]
        exact h.represents
  | some w =>
      rw [hw] at hrel
      obtain ⟨st, hl, hst⟩ : ∃ st, l.frame? d = some st ∧
          FrameStands p.native.boxes p.runtimes ⟨w, false⟩ st := by
        cases hl : l.frame? d with
        | none => rw [hl] at hrel; cases hrel
        | some st =>
            rw [hl] at hrel
            cases hrel with | some hst => exact ⟨st, rfl, hst⟩
      have hend := ends_count E p.native hst.stands (h.represents.frame_runtime hl hst ha)
      refine ⟨?_, ?_⟩
      · simp only [hw, Library.perform, Library.on, hl, Option.map_some, hend.result]
      · simp only [Process.perform, Process.on, hw, Library.perform, Library.on, hl, Process.invoke]
        rcases hx : (w.count E).exec p.native with ⟨r, n⟩
        rw [hx] at hend
        have hn := h.represents.native (n := n)
          (fun a x hx => by rw [hend.boxes]; exact hx) hend.streams
        obtain rfl : r = countOutcome E st.plan := hend.result
        cases countOutcome E st.plan with
        | ok v => exact { hn with halted := hp }
        | error e => exact { hn with halted := rfl }

/-- A call on a reader shows what the library says. -/
theorem agrees_reader (h : Agrees p l) (hp : p.halted = false) (E : Engine T) (i : Nat)
    (call : ReaderCall) :
    p.see (E, .reader i call) = (l.perform E (.reader i call)).1 ∧
      Represents (p.perform E (.reader i call)).2 (l.perform E (.reader i call)).2 := by
  rw [see_of_running hp]
  cases hr : p.readers[i]? with
  | none =>
      have hl := h.represents.reads.stands.get_none hr
      refine ⟨?_, ?_⟩
      · simp only [hr, Library.perform, Library.on, hl]
        rfl
      · simp only [Process.perform, Process.on, hr, Library.perform, Library.on, hl]
        exact h.represents
  | some r =>
      obtain ⟨o, hl, hst⟩ := h.represents.reads.stands.get hr
      obtain ⟨hsee, hend⟩ := Reading.reader_call (s := ⟨⟨p.native, r.1⟩, r.2⟩) call hst
      have hread := h.represents.readCall hr hend
      simp only [Process.perform, Process.on, hr, Library.perform, Library.on, hl, Option.map_some,
        hsee]
      cases o with
      | none =>
          refine ⟨rfl, ?_⟩
          have hset : l.readers.set i none = l.readers := by
            obtain ⟨hlt, hget⟩ := List.getElem?_eq_some_iff.mp hl
            rw [← hget]
            exact List.set_getElem_self hlt
          rw [show (none : Option (ReaderState T)).bind (fun st => (st.call call).2) = none
              from rfl,
            hset] at hread
          exact hread
      | some st => exact ⟨rfl, hread⟩

/-- **One step** shows the same on both sides, and they agree after it. -/
theorem agrees_step (h : Agrees p l) (s : Step T) (ha : l.allows s.2 = true) :
    p.see s = l.see s ∧ Agrees (p.after s) (l.after s) := by
  rw [Library.see, Library.after, Library.step]
  cases hp : p.halted with
  | true =>
      rw [← h.represents.halted, hp, if_pos rfl, Process.see, hp, if_pos rfl,
        Process.after_of_halted hp]
      exact ⟨rfl, h⟩
  | false =>
      have hafter : p.after s = (p.perform s.1 s.2).2 := by
        rw [Process.after, Process.step_of_running s.1 s.2 hp]
      rw [← h.represents.halted, hp, if_neg Bool.false_ne_true, hafter]
      have hrun : p.see s = (l.perform s.1 s.2).1 ∧
          Represents (p.perform s.1 s.2).2 (l.perform s.1 s.2).2 := by
        obtain ⟨E, call⟩ := s
        cases call with
        | count d => exact agrees_count h hp E d ha
        | reader i call => exact agrees_reader h hp E i call
        | _ =>
            have hshow := perform_shows E _ h.represents h.owned (by simp) (by simp) ha
            exact ⟨(see_of_running hp _).trans hshow.reply, hshow.represents⟩
      exact ⟨hrun.1, hafter ▸ h.owned.after s, hrun.2⟩

end Step

/-- The caller keeps the runtimes of the objects it works with open. -/
def AllowedFrom (l : Library T) (steps : List (Step T)) : Prop :=
  AllSteps Library.after (fun l s => l.allows s.2 = true) l steps

/-- A whole program does. -/
abbrev Allowed (steps : List (Step T)) : Prop := AllowedFrom .start steps

/-- **A run** shows the same on both sides, and they agree after it. -/
theorem Agrees.run {p : Process T} {l : Library T} (h : Agrees p l) {steps : List (Step T)}
    (ha : AllowedFrom l steps) :
    observations Process.after Process.see p steps =
        observations Library.after Library.see l steps ∧
      Agrees (p.run steps) (steps.foldl Library.after l) :=
  observations_eq (fun _ _ s hr hs => agrees_step hr s hs) h ha

/-- A frame outlives its session, and a reader its frame. -/
def selectOne : List (Step planTypes) :=
  [.createRuntime, .newSession 0, .sql 0 (some (encodeUtf16 "SELECT 1".toList)), .closeSession 0,
    .count 0, .collect 0 ⟨none, none, none⟩, .closeFrame 0, .count 0, .reader 0 (.next none),
    .reader 0 (.getCurrentBatch none), .reader 0 (.next none), .reader 0 (.close none),
    .reader 0 (.next none), .closeRuntime 0].map (planEngine, ·)

end DataFusionPanama
