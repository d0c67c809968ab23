import DataFusionPanama.Java.Reader
import DataFusionPanama.Native.Spec

/-!
# DataFusionPanama.Collect

The resources of one `collect`, from the call to the close of its reader.
`create_end` says how a `create` can end and what it leaves behind;
`Reading.Held` and `Reading.Done` are the two states of a reader, and every
call of a reader keeps it in its state except for the first `close`, which
takes it from the one to the other.

One way to end leaves something behind: when the import throws although
Rust has populated the struct, the struct's memory is given back but the
batches behind it are not.
-/

namespace DataFusionPanama

variable {T : Types}

/-! ## what dataframe_collect does -/

/-- The stream `dataframe_collect` exports, or how it fails. -/
def collectOutcome (E : Engine T) (runtime dataframe : Addr) (boxes : Store (Obj T)) :
    Outcome (Stream T) := do
  assertNotNull runtime "runtime pointer must not be null"
  assertNotNull dataframe "dataframe pointer must not be null"
  runtimeAt E boxes runtime
  let df ← planAt E boxes dataframe
  let batches ← E.collect df
  pure ⟨E.schema df, batches⟩

/-- `dataframe_collect` writes its stream, or nothing. -/
theorem exec_dataframeCollect_eq (E : Engine T) (runtime dataframe : Addr) (n : Native T)
    {streamOut : Addr} (hout : streamOut ≠ 0) :
    (dataframeCollect E runtime dataframe streamOut).exec n =
      match collectOutcome E runtime dataframe n.boxes with
      | .ok stream => (.ok 0, n.populate streamOut stream)
      | .error f => (.error f, n) := by
  rw [dataframeCollect, collectOutcome, assertNotNull_of_ne hout, exec_bind_lift]
  cases assertNotNull runtime "runtime pointer must not be null" with
  | error e => rfl
  | ok _ =>
      dsimp only
      rw [exec_bind_lift]
      cases assertNotNull dataframe "dataframe pointer must not be null" with
      | error e => rfl
      | ok _ =>
          dsimp only
          rw [exec_bind_lift_pure, derefRuntime, exec_bind_reads]
          cases runtimeAt E n.boxes runtime with
          | error e => rfl
          | ok _ =>
              dsimp only
              rw [derefFrame, exec_bind_reads]
              cases planAt E n.boxes dataframe with
              | error e => rfl
              | ok df =>
                  dsimp only
                  rw [exec_bind_lift]
                  change _ = match (E.collect df >>= fun bs => pure ⟨E.schema df, bs⟩ :
                    Outcome (Stream T)) with | .ok _ => _ | .error _ => _
                  cases E.collect df <;> rfl

/-! ## the protocol -/

/-- The struct of this `create` gets populated: nothing throws before the
call, and `dataframe_collect` succeeds. -/
def Populates (E : Engine T) (env : ArrowEnv) (runtime dataframe : Addr) (n : Native T) : Prop :=
  env.allocateNew = none ∧ env.invoke = none ∧
    ∃ stream, collectOutcome E runtime dataframe n.boxes = .ok stream

/-- Everything taken since `n` has been given back: the allocator is closed,
once and with nothing outstanding, no struct is left, and the release
callback has run exactly once if Rust populated the struct. -/
structure Disposed (n : Native T) (populated : Prop) (s : Collect T) : Prop where
  closedOnce : s.arrow.closes = [0]
  nothingOutstanding : s.arrow.outstanding = 0
  memory : ∀ p, s.native.streams.Live p → n.streams.Live p
  releasedOnce : populated → s.arrow.released = 1
  notReleased : ¬ populated → s.arrow.released = 0

/-- `dataframe_collect` writes its out-parameter exactly when it succeeds. -/
def WritesIffOk (E : Engine T) (runtime dataframe : Addr) : Prop :=
  ∀ (n : Native T) (out : Addr), n.streams.get? out = some none →
    let r := (dataframeCollect E runtime dataframe out).exec n
    (∃ stream, r.2.streams.get? out = some (some stream)) ↔ ∃ v, r.1 = .ok v

/-- A `create`, and any calls on its reader among which there is a `close`,
dispose of everything. -/
def Disposes (E : Engine T) (env : ArrowEnv) (runtime dataframe : Addr) (n : Native T) : Prop :=
  match (RecordBatchReaderImpl.create E env runtime dataframe).exec ⟨n, .new⟩ with
  | (.ok reader, s) => ∀ calls : List ReaderCall, calls.any ReaderCall.isClose →
      Disposed n (Populates E env runtime dataframe n)
        (calls.foldl ReaderCall.run ⟨s, reader⟩).collect
  | (.error (.thrown _), s) => Disposed n (Populates E env runtime dataframe n) s
  -- the process is gone
  | (.error .aborted, _) => True

/-! ## the two states of a reader -/

namespace Reading

/-- A reader that holds its stream. -/
structure Held (n : Native T) (s : Reading T) : Prop where
  notClosed : s.reader.closed = false
  owned : ∃ stream, s.collect.native.streams.get? s.reader.owned = some (some stream)
  others : ∀ p, p ≠ s.reader.owned → s.collect.native.streams.Live p → n.streams.Live p
  arrow : s.collect.arrow = ⟨if s.reader.loaded then 2 else 1, [], 0⟩

/-- A reader that has given everything back. -/
structure Done (n : Native T) (s : Reading T) : Prop where
  closed : s.reader.closed = true
  memory : ∀ p, s.collect.native.streams.Live p → n.streams.Live p
  arrow : s.collect.arrow = ⟨0, [0], 1⟩

section Steps

variable {n : Native T} {s : Reading T} {io : Option JString}

/-- The check of an open reader passes. -/
theorem exec_checkOpen {α : Type} {f : Unit → Prog (Reading T) Stop α}
    (h : s.reader.closed = false) : (checkOpen >>= f).exec s = (f ()).exec s := by
  apply Prog.exec_bind_ok
  rw [checkOpen, Prog.exec_reads, h]
  rfl

/-- The stream of a reader that owns one. -/
theorem exec_ownedStream {α : Type} {f : Stream T → Prog (Reading T) Stop α}
    {stream : Stream T}
    (h : s.collect.native.streams.get? s.reader.owned = some (some stream)) :
    (ownedStream >>= f).exec s = (f stream).exec s := by
  apply Prog.exec_bind_ok
  rw [ownedStream, Prog.exec_reads, h]

/-- Reading a batch keeps what is held. -/
theorem Held.loadNextBatch (h : Held n s) : Held n (Reading.loadNextBatch.exec s).2 := by
  obtain ⟨stream, howned⟩ := h.owned
  rw [Reading.loadNextBatch, exec_ownedStream howned]
  cases stream.batches with
  | nil => exact ⟨h.notClosed, h.owned, h.others, h.arrow⟩
  | cons b batches =>
      refine ⟨h.notClosed, ⟨_, Store.get?_put_self howned⟩,
        fun p hp hlive => h.others p hp (Store.live_put.mp hlive), ?_⟩
      simp only [Prog.exec_updates, h.arrow]
      cases s.reader.loaded <;> rfl

/-- So does `next`, however it ends. -/
theorem Held.next (h : Held n s) : Held n ((Reading.next io).exec s).2 := by
  unfold Reading.next
  rw [exec_checkOpen h.notClosed]
  cases io with
  | some e => exact h
  | none => exact h.loadNextBatch

theorem Held.getSchema (h : Held n s) : Held n ((Reading.getSchema io).exec s).2 := by
  unfold Reading.getSchema
  rw [exec_checkOpen h.notClosed]
  cases io with
  | some e => exact h
  | none =>
      obtain ⟨stream, howned⟩ := h.owned
      dsimp only
      rw [exec_ownedStream howned]
      exact h

theorem Held.getCurrentBatch (h : Held n s) :
    Held n ((Reading.getCurrentBatch io).exec s).2 := by
  unfold Reading.getCurrentBatch
  rw [exec_checkOpen h.notClosed]
  cases io <;> exact h

/-- The reader after its Arrow reader has been closed. -/
private def afterClose (s : Reading T) (arrow : Arrow) : Reading T :=
  ⟨⟨{ s.collect.native with
      streams := (s.collect.native.streams.put s.reader.owned none).free s.reader.owned }, arrow⟩,
    { s.reader with loaded := false, current := none }⟩

/-- Closing the `ArrowReader` releases the stream once and gives the buffers
back. -/
theorem exec_closeArrowReader {stream : Stream T}
    (howned : s.collect.native.streams.get? s.reader.owned = some (some stream))
    (harrow : s.collect.arrow = ⟨if s.reader.loaded then 2 else 1, [], 0⟩) :
    (closeArrowReader.exec s) = (.ok (), afterClose s ⟨0, [], 1⟩) := by
  have hlive : (s.collect.native.streams.put s.reader.owned none).Live s.reader.owned :=
    Store.live_put.mpr (Store.live_iff.mpr ⟨_, howned⟩)
  simp only [closeArrowReader, Prog.exec_bind, Prog.exec_updates, Prog.exec_reads, inCollect,
    Prog.exec_zoom, closeStream, howned, harrow]
  rw [if_pos hlive, Native.freeStruct_released]
  cases hl : s.reader.loaded <;> rfl

/-- An allocator with nothing outstanding closes. -/
theorem exec_closeAllocator {c : Collect T} {closes : List Nat} {released : Nat}
    (h : c.arrow = ⟨0, closes, released⟩) :
    (closeAllocator.exec c) = (.ok (), { c with arrow := ⟨0, closes ++ [0], released⟩ }) := by
  simp only [closeAllocator, Prog.exec_bind, Prog.exec_updates, h]
  rfl

/-- The first close gives everything back, even when the Arrow reader
throws. -/
theorem Held.close (h : Held n s) : Done n ((Reading.close io).exec s).2 := by
  obtain ⟨stream, howned⟩ := h.owned
  have hclosed : ∀ s' : Reading T, s' = { s with reader := { s.reader with closed := true } } →
      closeArrowReader.exec s' = (.ok (), afterClose s' ⟨0, [], 1⟩) := by
    rintro s' rfl
    exact exec_closeArrowReader howned h.arrow
  unfold Reading.close
  rw [Prog.exec_bind, Prog.exec_reads, h.notClosed]
  simp only [Bool.false_eq_true, if_false]
  rw [Prog.exec_bind, Prog.exec_updates]
  dsimp only
  rw [Prog.exec_bind_ok (hclosed _ rfl)]
  have hdone : Done n ⟨{ (afterClose { s with reader := { s.reader with closed := true } }
      ⟨0, [], 1⟩).collect with arrow := ⟨0, [0], 1⟩ }, (afterClose { s with reader :=
      { s.reader with closed := true } } ⟨0, [], 1⟩).reader⟩ := by
    refine ⟨rfl, fun p hp => ?_, rfl⟩
    by_cases hpo : p = s.reader.owned
    · subst hpo
      simp [afterClose, Store.Live] at hp
    · refine h.others p hpo ?_
      simp only [afterClose, Store.Live, Store.get?_free_of_ne hpo, Store.get?_put_of_ne hpo] at hp
      exact hp
  rw [Prog.exec_bind, inCollect, Prog.exec_zoom, exec_closeAllocator rfl]
  cases io <;> exact hdone

/-- The check of a closed reader does nothing. -/
private theorem exec_checkOpen_closed {α : Type} {f : Unit → Prog (Reading T) Stop α}
    (h : s.reader.closed = true) : ((checkOpen >>= f).exec s).2 = s := by
  have hexec : checkOpen.exec s =
      (.error (.thrown (.illegalStateException "reader is closed")), s) := by
    rw [checkOpen, Prog.exec_reads, h]
    rfl
  rw [Prog.exec_bind_error hexec]

/-- Nothing happens to a reader that has been closed. -/
theorem Done.run (h : Done n s) (c : ReaderCall) : Done n (c.run s) := by
  have hs : c.run s = s := by
    cases c with
    | next io => unfold ReaderCall.run Reading.next; exact exec_checkOpen_closed h.closed
    | getSchema io => unfold ReaderCall.run Reading.getSchema; exact exec_checkOpen_closed h.closed
    | getCurrentBatch io =>
        unfold ReaderCall.run Reading.getCurrentBatch
        exact exec_checkOpen_closed h.closed
    | close io =>
        show ((Reading.close io).exec s).2 = s
        unfold Reading.close
        rw [Prog.exec_bind, Prog.exec_reads, h.closed]
        rfl
  rw [hs]
  exact h

/-- One call on a reader that holds its stream. -/
theorem Held.run (h : Held n s) (c : ReaderCall) :
    if c.isClose then Done n (c.run s) else Held n (c.run s) := by
  cases c with
  | next io => exact h.next
  | getSchema io => exact h.getSchema
  | getCurrentBatch io => exact h.getCurrentBatch
  | close io => exact h.close

end Steps

/-- Nothing happens to a closed reader any more. -/
theorem Done.foldl {n : Native T} (calls : List ReaderCall) {s : Reading T} (h : Done n s) :
    Done n (calls.foldl ReaderCall.run s) := by
  induction calls generalizing s with
  | nil => exact h
  | cons c calls ih => exact ih (h.run c)

/-- **Every run of calls with a close in it** gives everything back. -/
theorem Held.foldl {n : Native T} (calls : List ReaderCall) {s : Reading T} (h : Held n s)
    (hclose : calls.any ReaderCall.isClose) : Done n (calls.foldl ReaderCall.run s) := by
  induction calls generalizing s with
  | nil => contradiction
  | cons c calls ih =>
      have hc := h.run c
      cases hcc : c.isClose with
      | true =>
          rw [hcc, if_pos rfl] at hc
          exact Done.foldl calls hc
      | false =>
          rw [hcc, if_neg Bool.false_ne_true] at hc
          rw [List.any_cons, hcc, Bool.false_or] at hclose
          exact ih hc hclose

/-- A closed reader has disposed of everything. -/
theorem Done.disposed {n : Native T} {s : Reading T} (h : Done n s) {populated : Prop}
    (hp : populated) : Disposed n populated s.collect :=
  ⟨by rw [h.arrow], by rw [h.arrow], h.memory, fun _ => by rw [h.arrow], fun hn => absurd hp hn⟩

end Reading

/-! ## creating a reader -/

section Create

variable {E : Engine T} {env : ArrowEnv} {runtime dataframe : Addr} {n : Native T}

/-- The state in which the struct has been allocated. -/
private def allocated (n : Native T) : Collect T :=
  ⟨{ n with streams := (n.streams.alloc none).2 }, ⟨1, [], 0⟩⟩

/-- The struct's address. -/
private def structAddr (n : Native T) : Addr := (n.streams.alloc (none : Option (Stream T))).1

/-- How a populating attempt can end: a throw, which leaves the struct where
it was and which is the import's if the struct is populated; a reader; or
no process. -/
private def CollectEnd (E : Engine T) (env : ArrowEnv) (runtime dataframe : Addr) (n : Native T) :
    Except Stop (RecordBatchReaderImpl T) × Collect T → Prop
  | (.ok reader, s) => Reading.Held n ⟨s, reader⟩ ∧ env.importArrayStream = none ∧
      env.invoke = none ∧ ∃ stream, collectOutcome E runtime dataframe n.boxes = .ok stream
  | (.error (.thrown _), s) => s.arrow = ⟨1, [], 0⟩ ∧ s.native.streams.Live (structAddr n) ∧
      (∀ p, p ≠ structAddr n → s.native.streams.Live p → n.streams.Live p) ∧
      (env.invoke = none → (∃ stream, collectOutcome E runtime dataframe n.boxes = .ok stream) →
        env.importArrayStream ≠ none)
  | (.error .aborted, _) => ∃ f, collectOutcome E runtime dataframe n.boxes = .error f

/-- The new struct is there. -/
private theorem live_structAddr (n : Native T) :
    (allocated n).native.streams.Live (structAddr n) :=
  Store.live_iff.mpr ⟨none, Store.get?_alloc_self n.streams none⟩

/-- Every other struct was there before. -/
private theorem live_allocated {n : Native T} {p : Addr} (hp : p ≠ structAddr n)
    (h : (allocated n).native.streams.Live p) : n.streams.Live p := by
  rw [Store.Live, allocated, Store.get?_alloc_of_ne hp] at h
  exact h

/-- Rust's part of a `create`: the struct is populated and the result is
unwrapped. -/
private theorem exec_call_collect {stream : Stream T}
    (h : collectOutcome E runtime dataframe n.boxes = .ok stream) :
    ∃ native : Native T,
      (inNative (call E .empty (.dataframeCollect runtime dataframe (structAddr n)))).exec
        (allocated n) = (.ok 0, ⟨native, ⟨1, [], 0⟩⟩) ∧
      native.streams = (allocated n).native.streams.put (structAddr n) (some stream) := by
  have hb := exec_dataframeCollect_eq E runtime dataframe
    ((allocated n).native.log (.call (.dataframeCollect runtime dataframe (structAddr n))))
    (Store.alloc_ne_null n.streams none)
  have hboxes : collectOutcome E runtime dataframe ((allocated n).native.log
      (.call (.dataframeCollect runtime dataframe (structAddr n)))).boxes = .ok stream := h
  rw [hboxes] at hb
  rw [inNative, Prog.exec_zoom,
    exec_call .empty (.dataframeCollect runtime dataframe (structAddr n)) hb (by simp)]
  exact ⟨_, rfl, rfl⟩

/-- Rust fails: the struct is as it was, and the error is thrown unless its
text takes the process down. -/
private theorem exec_call_collect_error {f : Fault}
    (h : collectOutcome E runtime dataframe n.boxes = .error f) :
    ∃ stop native,
      (inNative (call E .empty (.dataframeCollect runtime dataframe (structAddr n)))).exec
        (allocated n) = (.error stop, ⟨native, ⟨1, [], 0⟩⟩) ∧
      native.streams = (allocated n).native.streams := by
  have hb := exec_dataframeCollect_eq E runtime dataframe
    ((allocated n).native.log (.call (.dataframeCollect runtime dataframe (structAddr n))))
    (Store.alloc_ne_null n.streams none)
  have hboxes : collectOutcome E runtime dataframe ((allocated n).native.log
      (.call (.dataframeCollect runtime dataframe (structAddr n)))).boxes = .error f := h
  rw [hboxes] at hb
  rw [inNative, Prog.exec_zoom]
  by_cases hnul : nul ∈ f.text
  · rw [exec_call_aborted .empty (.dataframeCollect runtime dataframe (structAddr n)) hb hnul]
    exact ⟨_, _, rfl, rfl⟩
  · rw [exec_call .empty (.dataframeCollect runtime dataframe (structAddr n)) hb
      (by rintro _ ⟨⟩; exact hnul)]
    exact ⟨_, _, rfl, rfl⟩

/-- Importing a populated struct moves the stream. -/
theorem exec_importArrayStream {s : Collect T} {p : Addr} {stream : Stream T}
    (himport : env.importArrayStream = none)
    (h : s.native.streams.get? p = some (some stream)) :
    (importArrayStream env p).exec s =
      (.ok (s.native.streams.alloc (some stream)).1,
        ⟨{ s.native with
            streams := ((s.native.streams.alloc (some stream)).2.put p none).free p },
          { s.arrow with outstanding := s.arrow.outstanding + 1 - 1 }⟩) := by
  have hlive : ((s.native.streams.alloc (some stream)).2.put p none).Live p :=
    Store.live_put.mpr (Store.live_iff.mpr ⟨_, Store.get?_alloc_of_some h⟩)
  simp only [importArrayStream, throws, himport, Prog.exec_bind, Prog.exec_pure, Prog.exec_reads, h,
    Prog.exec_updates, closeStream]
  rw [if_pos hlive, Native.freeStruct_released]

/-- Rust has not populated the struct. -/
private theorem failed_end {f : Fault} {stop : Stop} {native : Native T}
    (hout : collectOutcome E runtime dataframe n.boxes = .error f)
    (hstreams : native.streams = (allocated n).native.streams) :
    CollectEnd E env runtime dataframe n (.error stop, ⟨native, ⟨1, [], 0⟩⟩) := by
  cases stop with
  | aborted => exact ⟨f, hout⟩
  | thrown t =>
      refine ⟨rfl, ?_, fun p hp hlive => live_allocated hp ?_, fun _ hs => ?_⟩
      · rw [hstreams]
        exact live_structAddr n
      · rwa [hstreams] at hlive
      · obtain ⟨stream, hs⟩ := hs
        rw [hout] at hs
        contradiction

/-- Rust has populated the struct: it is imported, or stays as it is. -/
private theorem import_end {stream : Stream T} {native : Native T} (hinvoke : env.invoke = none)
    (hout : collectOutcome E runtime dataframe n.boxes = .ok stream)
    (hstreams : native.streams =
      (allocated n).native.streams.put (structAddr n) (some stream)) :
    CollectEnd E env runtime dataframe n ((do
      let reader ← importArrayStream env (structAddr n)
      pure ⟨reader, none, false, false⟩ : ReaderM T (RecordBatchReaderImpl T)).exec
        ⟨native, ⟨1, [], 0⟩⟩) := by
  have hget : native.streams.get? (structAddr n) = some (some stream) := by
    rw [hstreams]
    exact Store.get?_put_self (Store.get?_alloc_self n.streams none)
  have hothers : ∀ p, p ≠ structAddr n → native.streams.Live p → n.streams.Live p := by
    intro p hp hlive
    rw [hstreams, Store.live_put] at hlive
    exact live_allocated hp hlive
  cases himport : env.importArrayStream with
  | some t =>
      have hexec : (importArrayStream env (structAddr n)).exec ⟨native, ⟨1, [], 0⟩⟩ =
          (.error (.thrown t), ⟨native, ⟨1, [], 0⟩⟩) := by
        simp only [importArrayStream, throws, himport, Prog.exec_bind, Prog.exec_throw]
      rw [Prog.exec_bind_error hexec]
      refine ⟨rfl, Store.live_iff.mpr ⟨_, hget⟩, hothers, fun _ _ h => ?_⟩
      rw [himport] at h
      contradiction
  | none =>
      rw [Prog.exec_bind_ok (exec_importArrayStream himport hget), Prog.exec_pure]
      have hne : (native.streams.alloc (some stream)).1 ≠ structAddr n := fun h =>
        Store.not_live_alloc native.streams (some stream) (h ▸ Store.live_iff.mpr ⟨_, hget⟩)
      refine ⟨⟨rfl, ⟨stream, ?_⟩, fun p hp hlive => ?_, rfl⟩, himport, hinvoke, stream, hout⟩
      · dsimp only
        rw [Store.get?_free_of_ne hne, Store.get?_put_of_ne hne, Store.get?_alloc_self]
      · by_cases hps : p = structAddr n
        · subst hps
          simp [Store.Live] at hlive
        · refine hothers p hps ?_
          rwa [Store.Live, Store.get?_free_of_ne hps, Store.get?_put_of_ne hps,
            Store.get?_alloc_of_ne hp] at hlive

/-- How the downcall can end. -/
private theorem collectInto_end :
    CollectEnd E env runtime dataframe n
      ((collectInto E env runtime dataframe (structAddr n)).exec (allocated n)) := by
  cases hinvoke : env.invoke with
  | some t =>
      rw [exec_collectInto_error hinvoke]
      refine ⟨rfl, live_structAddr n, fun p => live_allocated, fun h => ?_⟩
      rw [hinvoke] at h
      contradiction
  | none =>
      rw [collectInto, exec_invokeCollect hinvoke]
      cases hout : collectOutcome E runtime dataframe n.boxes with
      | error f =>
          obtain ⟨stop, native, hcall, hstreams⟩ := exec_call_collect_error hout
          rw [Prog.exec_bind_error hcall]
          exact failed_end hout hstreams
      | ok stream =>
          obtain ⟨native, hcall, hstreams⟩ := exec_call_collect hout
          rw [Prog.exec_bind_ok hcall]
          exact import_end hinvoke hout hstreams

/-- How a `create` can end. -/
private def CreateEnd (E : Engine T) (env : ArrowEnv) (runtime dataframe : Addr) (n : Native T) :
    Except Stop (RecordBatchReaderImpl T) × Collect T → Prop
  | (.ok reader, s) => Reading.Held n ⟨s, reader⟩ ∧ env.importArrayStream = none ∧
      Populates E env runtime dataframe n
  | (.error (.thrown _), s) => s.arrow = ⟨0, [0], 0⟩ ∧
      (∀ p, s.native.streams.Live p → n.streams.Live p) ∧
      (Populates E env runtime dataframe n → env.importArrayStream ≠ none)
  | (.error .aborted, _) => ¬ Populates E env runtime dataframe n

/-- Closing a stream gives the memory of its struct back. -/
theorem exec_closeStream {s : Collect T} {p : Addr} (h : s.native.streams.Live p) :
    ((closeStream p).exec s) =
      (.ok (), ⟨s.native.freeStruct p,
        { s.arrow with outstanding := s.arrow.outstanding - 1 }⟩) := by
  rw [closeStream, Prog.exec_updates, if_pos h]

/-- The state after the struct has been closed by the inner handler. -/
private def structClosed (s : Collect T) (p : Addr) : Collect T :=
  ⟨s.native.freeStruct p, ⟨0, [], 0⟩⟩

/-- The inner handler closes the stream and throws on. -/
private theorem exec_rethrowClosingStream_live {α : Type} {t : Throwable} {s : Collect T} {p : Addr}
    (harrow : s.arrow = ⟨1, [], 0⟩) (hlive : s.native.streams.Live p) :
    (rethrowClosingStream p t : ReaderM T α).exec s = (.error (.thrown t), structClosed s p) := by
  rw [rethrowClosingStream, Prog.exec_bind_ok (exec_closeStream hlive), harrow]
  rfl

/-- The outer handler closes the allocator and throws on. -/
private theorem exec_rethrowClosingAllocator_new {α : Type} {t : Throwable} {c : Collect T}
    (h : c.arrow = ⟨0, [], 0⟩) :
    ∃ t', (rethrowClosingAllocator t : ReaderM T α).exec c =
      (.error (.thrown t'), { c with arrow := ⟨0, [0], 0⟩ }) := by
  unfold rethrowClosingAllocator
  rw [Prog.exec_bind_ok (Reading.exec_closeAllocator h)]
  cases t <;> exact ⟨_, rfl⟩

/-- How `create` can end. -/
theorem create_end : CreateEnd E env runtime dataframe n
    ((RecordBatchReaderImpl.create E env runtime dataframe).exec ⟨n, .new⟩) := by
  unfold RecordBatchReaderImpl.create
  cases halloc : env.allocateNew with
  | some t =>
      obtain ⟨t', ht'⟩ := exec_rethrowClosingAllocator_new (α := RecordBatchReaderImpl T) (t := t)
        (c := ⟨n, .new⟩) rfl
      rw [exec_catchThrowable_thrown (Prog.exec_bind_error (exec_allocateNew_error halloc _)), ht']
      refine ⟨rfl, fun p hp => hp, fun h => ?_⟩
      have hnone := h.1
      rw [halloc] at hnone
      contradiction
  | none =>
      have hexec : ∀ {α : Type} (f : Addr → ReaderM T α),
          (allocateNew env >>= f).exec ⟨n, .new⟩ = (f (structAddr n)).exec (allocated n) :=
        fun f => Prog.exec_bind_ok (exec_allocateNew n halloc)
      have hend : CollectEnd E env runtime dataframe n
          ((collectInto E env runtime dataframe (structAddr n)).exec (allocated n)) :=
        collectInto_end
      rcases hrun : (collectInto E env runtime dataframe (structAddr n)).exec (allocated n)
        with ⟨(t | -) | reader, s⟩ <;> rw [hrun] at hend
      · -- the struct is closed, then the allocator
        obtain ⟨harrow, hlive, hothers, himport⟩ := hend
        obtain ⟨t', ht'⟩ := exec_rethrowClosingAllocator_new (α := RecordBatchReaderImpl T) (t := t)
          (c := structClosed s (structAddr n)) rfl
        rw [exec_catchThrowable_thrown ((hexec _).trans ((exec_catchThrowable_thrown hrun).trans
          (exec_rethrowClosingStream_live harrow hlive))), ht']
        refine ⟨rfl, fun p hp => ?_, fun h => himport h.2.1 h.2.2⟩
        by_cases hps : p = structAddr n
        · subst hps
          simp [structClosed, Store.Live] at hp
        · refine hothers p hps ?_
          rwa [Store.Live, structClosed, Native.streams_freeStruct,
            Store.get?_free_of_ne hps] at hp
      · obtain ⟨f, hf⟩ := hend
        rw [exec_catchThrowable_aborted ((hexec _).trans (exec_catchThrowable_aborted hrun))]
        rintro ⟨-, -, stream, hs⟩
        rw [hf] at hs
        contradiction
      · obtain ⟨hheld, himport, hpop⟩ := hend
        rw [exec_catchThrowable_ok ((hexec _).trans (exec_catchThrowable_ok hrun))]
        exact ⟨hheld, himport, halloc, hpop⟩

end Create

/-! ## the protocol holds, but for one case -/

/-- A struct is written to exactly when the call is ok. -/
theorem writesIffOk (E : Engine T) (runtime dataframe : Addr) :
    WritesIffOk E runtime dataframe := by
  intro n out hout
  have hne : out ≠ 0 := by
    rintro rfl
    contradiction
  rw [exec_dataframeCollect_eq E runtime dataframe n hne]
  cases collectOutcome E runtime dataframe n.boxes with
  | ok stream => exact ⟨fun _ => ⟨0, rfl⟩, fun _ => ⟨stream, Store.get?_put_self hout⟩⟩
  | error f =>
      constructor
      · rintro ⟨stream, hs⟩
        cases hout.symm.trans hs
      · rintro ⟨v, hv⟩
        contradiction

/-- The import of a populated struct throws, and its batches are never
released. -/
theorem not_disposes_of_failed_import (E : Engine T) (env : ArrowEnv) (runtime dataframe : Addr)
    (n : Native T) (hpop : Populates E env runtime dataframe n)
    (himport : env.importArrayStream ≠ none) : ¬ Disposes E env runtime dataframe n := by
  have hend : CreateEnd E env runtime dataframe n
      ((RecordBatchReaderImpl.create E env runtime dataframe).exec ⟨n, .new⟩) := create_end
  rw [Disposes]
  rcases hrun : (RecordBatchReaderImpl.create E env runtime dataframe).exec ⟨n, .new⟩
    with ⟨(t | -) | reader, s⟩ <;> rw [hrun] at hend
  · intro hdisposed
    have hreleased := hdisposed.releasedOnce hpop
    rw [hend.1] at hreleased
    contradiction
  · exact absurd hpop hend
  · exact absurd hend.2.1 himport

/-- Everything is given back on every other path. -/
theorem disposes_of_not {E : Engine T} {env : ArrowEnv} {runtime dataframe : Addr} {n : Native T}
    (h : ¬ (Populates E env runtime dataframe n ∧ env.importArrayStream ≠ none)) :
    Disposes E env runtime dataframe n := by
  have hend : CreateEnd E env runtime dataframe n
      ((RecordBatchReaderImpl.create E env runtime dataframe).exec ⟨n, .new⟩) := create_end
  rw [Disposes]
  rcases hrun : (RecordBatchReaderImpl.create E env runtime dataframe).exec ⟨n, .new⟩
    with ⟨(t | -) | reader, s⟩ <;> rw [hrun] at hend
  · obtain ⟨harrow, hmemory, himport⟩ := hend
    have hpop : ¬ Populates E env runtime dataframe n := fun hp => h ⟨hp, himport hp⟩
    exact ⟨by rw [harrow], by rw [harrow], hmemory, fun hp => absurd hp hpop,
      fun _ => by rw [harrow]⟩
  · trivial
  · obtain ⟨hheld, -, hpop⟩ := hend
    exact fun calls hcalls => (hheld.foldl calls hcalls).disposed hpop

/-- **Collecting gives everything back, except when the import of a
populated struct throws**: then its batches are never released. -/
theorem collect_disposes_iff (E : Engine T) (env : ArrowEnv) (runtime dataframe : Addr)
    (n : Native T) :
    (WritesIffOk E runtime dataframe ∧ Disposes E env runtime dataframe n) ↔
      ¬ (Populates E env runtime dataframe n ∧ env.importArrayStream ≠ none) :=
  ⟨fun h hfail => not_disposes_of_failed_import E env runtime dataframe n hfail.1 hfail.2 h.2,
    fun h => ⟨writesIffOk E runtime dataframe, disposes_of_not h⟩⟩

/-- The import runs out of memory. -/
private def importFails : ArrowEnv := ⟨none, none, some (.library "OutOfMemoryException")⟩

/-- A runtime at address 1 and a frame at address 2. -/
private def oneFrame : Native planTypes :=
  (Native.empty.box .runtime).box (.dataframe (.query "SELECT 1".toList))

theorem failed_import_leaks :
    ¬ ∀ (E : Engine planTypes) (env : ArrowEnv) (runtime dataframe : Addr) (n : Native planTypes),
      WritesIffOk E runtime dataframe ∧ Disposes E env runtime dataframe n := fun h =>
  not_disposes_of_failed_import planEngine importFails 1 2 oneFrame ⟨rfl, rfl, _, rfl⟩
    (by simp [importFails]) (h planEngine importFails 1 2 oneFrame).2

end DataFusionPanama
