import DataFusionPanama.Base.Binding
import DataFusionPanama.Collect
import DataFusionPanama.Outcomes

/-!
# DataFusionPanama.Readers

What a reader stands for: the schema and the batches behind the struct it
owns, the batch in its vectors, and an allocator with as much outstanding as
these hold.  `reader_call` is one call on it, `ends_collect` how it comes
about.

The streams of all readers are in one store, so each statement also says
what happens to the structs of the others: nothing.
-/

namespace DataFusionPanama

variable {T : Types} {α : Type}

/-! ## calls -/

/-- What a call on a reader shows. -/
def ReaderCall.observe (s : Reading T) : ReaderCall → Observed T
  | .next io => .next ((Reading.next io).exec s).1
  | .getSchema io => .schema ((Reading.getSchema io).exec s).1
  | .getCurrentBatch io => .batch ((Reading.getCurrentBatch io).exec s).1
  | .close io => .called ((Reading.close io).exec s).1

/-- A reader and what it stands for; `none` is a closed one, whose allocator
has been closed with nothing outstanding. -/
def ReaderStands (streams : Store (Option (Stream T))) (r : Arrow × RecordBatchReaderImpl T) :
    Option (ReaderState T) → Prop
  | none => r.2.closed = true ∧ r.1 = ⟨0, [0], 1⟩
  | some st => r.2.closed = false ∧ r.2.current = st.current ∧
      streams.get? r.2.owned = some (some ⟨st.schema, st.rest⟩) ∧
      r.1 = ⟨if r.2.loaded then 2 else 1, [], 0⟩

/-- A reader whose struct is left alone. -/
theorem ReaderStands.imp {streams streams' : Store (Option (Stream T))}
    {r : Arrow × RecordBatchReaderImpl T} {o : Option (ReaderState T)}
    (h : ReaderStands streams r o)
    (hs : r.2.closed = false → streams'.get? r.2.owned = streams.get? r.2.owned) :
    ReaderStands streams' r o := by
  cases o with
  | none => exact h
  | some st => exact ⟨h.1, h.2.1, (hs h.1).trans h.2.2.1, h.2.2.2⟩

/-- What one call leaves, and that it is nobody else's concern. -/
structure ReaderEnds (s : Reading T) (o : Option (ReaderState T)) (s' : Reading T) : Prop where
  stands : ReaderStands s'.native.streams (s'.collect.arrow, s'.reader) o
  owned : s'.reader.owned = s.reader.owned
  /-- A reader that is closed stays closed. -/
  closed : s.reader.closed = true → s'.reader.closed = true
  boxes : s'.native.boxes = s.native.boxes
  results : s'.native.results = s.native.results
  ledger : s'.native.ledger = s.native.ledger
  lost : s'.native.lost = s.native.lost
  others : ∀ p, p ≠ s.reader.owned → s'.native.streams.get? p = s.native.streams.get? p
  /-- The struct is live until the reader is closed, and from then on it is
  not. -/
  struct : s'.native.streams.get? s.reader.owned = if s.reader.closed then
    s.native.streams.get? s.reader.owned else o.map fun st => some ⟨st.schema, st.rest⟩

namespace Reading

variable {s : Reading T} {st : ReaderState T}

/-- Nothing happens. -/
theorem readerEnds_refl {o : Option (ReaderState T)}
    (h : ReaderStands s.native.streams (s.collect.arrow, s.reader) o) : ReaderEnds s o s := by
  refine ⟨h, rfl, id, rfl, rfl, rfl, rfl, fun _ _ => rfl, ?_⟩
  cases o with
  | none => rw [if_pos h.1]
  | some st => rw [if_neg (by rw [h.1]; simp), h.2.2.1]; rfl

/-- The check of a closed reader throws. -/
theorem exec_checkOpen_throws {f : Unit → Prog (Reading T) Stop α} (h : s.reader.closed = true) :
    (checkOpen >>= f).exec s = (.error readerClosed, s) := by
  apply Prog.exec_bind_error
  rw [checkOpen, Prog.exec_reads, h]
  rfl

/-- Closing a closed reader does nothing. -/
theorem exec_close_closed (io : Option JString) (h : s.reader.closed = true) :
    (Reading.close io).exec s = (.ok (), s) := by
  unfold Reading.close
  rw [Prog.exec_bind, Prog.exec_reads, h]
  rfl

/-- A call on a closed reader. -/
theorem call_closed (c : ReaderCall) (h : s.reader.closed = true) :
    c.observe s = c.afterClose ∧ c.run s = s := by
  cases c with
  | next io =>
      rw [ReaderCall.observe, ReaderCall.run]
      unfold Reading.next
      rw [exec_checkOpen_throws h]
      exact ⟨rfl, rfl⟩
  | getSchema io =>
      rw [ReaderCall.observe, ReaderCall.run]
      unfold Reading.getSchema
      rw [exec_checkOpen_throws h]
      exact ⟨rfl, rfl⟩
  | getCurrentBatch io =>
      rw [ReaderCall.observe, ReaderCall.run]
      unfold Reading.getCurrentBatch
      rw [exec_checkOpen_throws h]
      exact ⟨rfl, rfl⟩
  | close io =>
      rw [ReaderCall.observe, ReaderCall.run, exec_close_closed io h]
      exact ⟨rfl, rfl⟩

/-- `next` is what it is on the stream. -/
theorem call_next (io : Option JString)
    (h : ReaderStands s.native.streams (s.collect.arrow, s.reader) (some st)) :
    (ReaderCall.next io).observe s = (st.call (.next io)).1 ∧
      ReaderEnds s (st.call (.next io)).2 ((ReaderCall.next io).run s) := by
  obtain ⟨hclosed, hcurrent, howned, harrow⟩ := h
  rw [ReaderCall.observe, ReaderCall.run]
  unfold Reading.next
  rw [exec_checkOpen hclosed]
  cases io with
  | some e => exact ⟨rfl, readerEnds_refl ⟨hclosed, hcurrent, howned, harrow⟩⟩
  | none =>
      dsimp only
      rw [loadNextBatch, exec_ownedStream howned]
      obtain ⟨schema, current, rest⟩ := st
      cases rest with
      | nil =>
          refine ⟨rfl, ⟨⟨hclosed, rfl, howned, harrow⟩, rfl, id, rfl, rfl, rfl, rfl,
            fun _ _ => rfl, ?_⟩⟩
          rw [if_neg (by rw [hclosed]; simp)]
          exact howned
      | cons b rest =>
          refine ⟨rfl, ⟨⟨hclosed, rfl, Store.get?_put_self howned, ?_⟩, rfl, id, rfl, rfl, rfl, rfl,
            fun p hp => Store.get?_put_of_ne hp, ?_⟩⟩
          · simp only [Prog.exec_updates] at harrow ⊢
            rw [harrow]
            cases s.reader.loaded <;> rfl
          · rw [if_neg (by rw [hclosed]; simp)]
            exact Store.get?_put_self howned

theorem call_getSchema (io : Option JString)
    (h : ReaderStands s.native.streams (s.collect.arrow, s.reader) (some st)) :
    (ReaderCall.getSchema io).observe s = (st.call (.getSchema io)).1 ∧
      ReaderEnds s (st.call (.getSchema io)).2 ((ReaderCall.getSchema io).run s) := by
  rw [ReaderCall.observe, ReaderCall.run]
  unfold Reading.getSchema
  rw [exec_checkOpen h.1]
  cases io with
  | some e => exact ⟨rfl, readerEnds_refl h⟩
  | none =>
      dsimp only
      rw [exec_ownedStream h.2.2.1]
      exact ⟨rfl, readerEnds_refl h⟩

theorem call_getCurrentBatch (io : Option JString)
    (h : ReaderStands s.native.streams (s.collect.arrow, s.reader) (some st)) :
    (ReaderCall.getCurrentBatch io).observe s = (st.call (.getCurrentBatch io)).1 ∧
      ReaderEnds s (st.call (.getCurrentBatch io)).2 ((ReaderCall.getCurrentBatch io).run s) := by
  rw [ReaderCall.observe, ReaderCall.run]
  unfold Reading.getCurrentBatch
  rw [exec_checkOpen h.1]
  cases io with
  | some e => exact ⟨rfl, readerEnds_refl h⟩
  | none =>
      refine ⟨?_, readerEnds_refl h⟩
      rw [Prog.exec_reads]
      exact congrArg (fun b => Observed.batch (.ok b)) h.2.1

/-- Closing a reader gives its struct back; the message of a leak is never
seen. -/
theorem call_close (io : Option JString)
    (h : ReaderStands s.native.streams (s.collect.arrow, s.reader) (some st)) :
    (ReaderCall.close io).observe s = (st.call (.close io)).1 ∧
      ReaderEnds s (st.call (.close io)).2 ((ReaderCall.close io).run s) := by
  obtain ⟨hclosed, hcurrent, howned, harrow⟩ := h
  -- what is left when the Arrow reader and the allocator are closed
  have hexec : ∃ s', (Reading.close io).exec s = (io.elim (.ok ()) fun _ => .error (.thrown
        (.assertionError "failed to close ArrowReader" (.library "IOException"))), s') ∧
      s'.collect.arrow = ⟨0, [0], 1⟩ ∧
      s'.native = { s.native with
        streams := (s.native.streams.put s.reader.owned none).free s.reader.owned } ∧
      s'.reader = { s.reader with closed := true, loaded := false, current := none } := by
    have harrowReader := exec_closeArrowReader
      (s := { s with reader := { s.reader with closed := true } }) howned harrow
    unfold Reading.close
    rw [Prog.exec_bind, Prog.exec_reads, hclosed]
    simp only [Bool.false_eq_true, if_false]
    rw [Prog.exec_bind, Prog.exec_updates]
    dsimp only
    rw [Prog.exec_bind_ok harrowReader, Prog.exec_bind, inCollect, Prog.exec_zoom,
      exec_closeAllocator rfl]
    cases io <;> exact ⟨_, rfl, rfl, rfl, rfl⟩
  obtain ⟨s', hs', harrow', hnative, hreader⟩ := hexec
  rw [ReaderCall.observe, ReaderCall.run, hs']
  have hend : ReaderEnds s none s' := by
    refine ⟨⟨by rw [hreader], harrow'⟩, by rw [hreader], fun _ => by rw [hreader],
      by rw [hnative], by rw [hnative], by rw [hnative], by rw [hnative], fun p hp => ?_, ?_⟩
    · rw [hnative]
      exact (Store.get?_free_of_ne hp).trans (Store.get?_put_of_ne hp)
    · rw [hnative, if_neg (by rw [hclosed]; simp)]
      exact Store.get?_free_self _ _
  cases io with
  | none => exact ⟨rfl, hend⟩
  | some e => exact ⟨rfl, hend⟩

/-- **One call on a reader** shows and leaves what it does in the library. -/
theorem reader_call (c : ReaderCall) {o : Option (ReaderState T)}
    (h : ReaderStands s.native.streams (s.collect.arrow, s.reader) o) :
    c.observe s = (match o with | none => c.afterClose | some st => (st.call c).1) ∧
      ReaderEnds s (o.bind fun st => (st.call c).2) (c.run s) := by
  cases o with
  | none =>
      obtain ⟨hsee, hrun⟩ := call_closed c h.1
      exact ⟨hsee, by rw [hrun]; exact readerEnds_refl h⟩
  | some st =>
      cases c with
      | next io => exact call_next io h
      | getSchema io => exact call_getSchema io h
      | getCurrentBatch io => exact call_getCurrentBatch io h
      | close io => exact call_close io h

end Reading

/-! ## the readers of a program -/

/-- What the readers of a program stand for.  No two open ones own the same
struct. -/
structure Reads (streams : Store (Option (Stream T)))
    (readers : List (Arrow × RecordBatchReaderImpl T)) (states : List (Option (ReaderState T))) :
    Prop where
  stands : Mirrors (ReaderStands streams) readers states
  apart : ∀ {i j : Nat} {r r'}, readers[i]? = some r → readers[j]? = some r' →
    r.2.closed = false → r'.2.closed = false → r.2.owned = r'.2.owned → i = j

/-- There are no readers. -/
theorem reads_nil (streams : Store (Option (Stream T))) : Reads streams [] [] :=
  ⟨.nil, fun h => (by cases h)⟩

namespace Reads

variable {streams streams' : Store (Option (Stream T))}
  {readers : List (Arrow × RecordBatchReaderImpl T)} {states : List (Option (ReaderState T))}

/-- The structs that are there stay as they are. -/
theorem mono (h : Reads streams readers states)
    (hs : ∀ q x, streams.get? q = some x → streams'.get? q = some x) :
    Reads streams' readers states where
  stands := h.stands.imp fun _ _ o _ hw => by
    cases o with
    | none => exact hw
    | some st => exact ⟨hw.1, hw.2.1, hs _ _ hw.2.2.1, hw.2.2.2⟩
  apart := h.apart

/-- An open reader owns a live struct. -/
theorem live (h : Reads streams readers states) {r : Arrow × RecordBatchReaderImpl T}
    (hr : r ∈ readers) (hopen : r.2.closed = false) : streams.Live r.2.owned := by
  obtain ⟨i, hi⟩ := List.mem_iff_getElem?.mp hr
  obtain ⟨o, -, hst⟩ := h.stands.get hi
  cases o with
  | none =>
      rw [hst.1] at hopen
      cases hopen
  | some st => exact Store.live_iff.mpr ⟨_, hst.2.2.1⟩

/-- A new reader. -/
theorem add (h : Reads streams readers states) {owned : Addr} {stream : Stream T}
    (hfresh : streams.get? owned = none) (hown : streams'.get? owned = some (some stream))
    (hs : ∀ q, q ≠ owned → streams'.get? q = streams.get? q) :
    Reads streams' (readers ++ [(⟨1, [], 0⟩, ⟨owned, none, false, false⟩)])
      (states ++ [some ⟨stream.schema, none, stream.batches⟩]) := by
  -- the structs of the readers there are already live
  have hne : ∀ {i : Nat} {r}, readers[i]? = some r → r.2.closed = false → r.2.owned ≠ owned := by
    intro i r hr hopen he
    have hlive := h.live (List.mem_of_getElem? hr) hopen
    rw [he, Store.Live, hfresh] at hlive
    cases hlive
  refine ⟨(h.stands.imp fun _ _ _ hr hst => hst.imp fun hc => hs _ (hne hr hc)).append
    ⟨rfl, rfl, hown, rfl⟩, ?_⟩
  intro i j r r' hi hj hr hr' heq
  have hcases : ∀ {k : Nat} {q : Arrow × RecordBatchReaderImpl T},
      (readers ++ [(⟨1, [], 0⟩, ⟨owned, none, false, false⟩)])[k]? = some q →
      readers[k]? = some q ∨ k = readers.length ∧ q.2.owned = owned := by
    intro k q hk
    rw [getElem?_concat] at hk
    split at hk
    · next hlen => exact .inr ⟨hlen, by rw [← Option.some.inj hk]⟩
    · exact .inl hk
  rcases hcases hi with hi' | ⟨rfl, hi'⟩ <;> rcases hcases hj with hj' | ⟨rfl, hj'⟩
  · exact h.apart hi' hj' hr hr' heq
  · exact absurd (heq.trans hj') (hne hi' hr)
  · exact absurd (heq.symm.trans hi') (hne hj' hr')
  · rfl

/-- A call on one of the readers. -/
theorem read {n : Native T} (h : Reads n.streams readers states) {i : Nat}
    {r : Arrow × RecordBatchReaderImpl T} {o : Option (ReaderState T)} {s : Reading T}
    (hr : readers[i]? = some r) (hend : ReaderEnds ⟨⟨n, r.1⟩, r.2⟩ o s) :
    Reads s.native.streams (readers.set i (s.collect.arrow, s.reader)) (states.set i o) where
  stands := h.stands.set
    (fun j r' o' hj hr' hst => hst.imp fun hclosed => by
      by_cases hown : r'.2.owned = r.2.owned
      · -- then this reader has been closed, and its struct is not touched
        have hc : r.2.closed = true := by
          cases hc : r.2.closed with
          | true => rfl
          | false => exact absurd (h.apart hr' hr hclosed hc hown) hj
        have hstruct := hend.struct
        rw [if_pos hc] at hstruct
        rw [hown]
        exact hstruct
      · exact hend.others _ hown)
    fun _ => hend.stands
  apart := by
    intro j k q q' hj hk hq hq' heq
    -- a reader keeps its struct, and does not open again
    have hback : ∀ {m : Nat} {x : Arrow × RecordBatchReaderImpl T},
        (readers.set i (s.collect.arrow, s.reader))[m]? = some x → x.2.closed = false →
        ∃ y, readers[m]? = some y ∧ y.2.closed = false ∧ y.2.owned = x.2.owned := by
      intro m x hm hx
      by_cases him : i = m
      · subst him
        rw [List.getElem?_set_self (List.getElem?_eq_some_iff.mp hr).1, Option.some.injEq] at hm
        subst hm
        refine ⟨r, hr, ?_, hend.owned.symm⟩
        cases hc : r.2.closed with
        | false => rfl
        | true => exact (hend.closed hc).symm.trans hx
      · rw [List.getElem?_set_ne him] at hm
        exact ⟨x, hm, hx, rfl⟩
    obtain ⟨y, hy, hyc, hyo⟩ := hback hj hq
    obtain ⟨z, hz, hzc, hzo⟩ := hback hk hq'
    exact h.apart hy hz hyc hzc (by rw [hyo, hzo, heq])

end Reads

/-! ## collecting -/

/-- The stream that is behind the struct when the import of the struct
throws. -/
def unimported (env : ArrowEnv) (exported : Outcome (Stream T)) : Option (Stream T) :=
  match env.allocateNew, env.invoke, env.importArrayStream with
  | none, none, some _ => exported.toOption
  | _, _, _ => none

/-- What creating a reader leaves of the streams, if it has not been taken
down with the process, and the streams it loses. -/
structure Collected (n : Native T) (r : Except Stop (Stream T)) (lost : List (Stream T))
    (out : Except Stop (Arrow × RecordBatchReaderImpl T) × Native T) : Prop where
  failed : ∀ e, r = .error e → out.1 = .error e ∧
    (e ≠ .aborted → ∀ p, out.2.streams.get? p = n.streams.get? p)
  made : ∀ stream, r = .ok stream → ∃ owned, out.1 = .ok (⟨1, [], 0⟩, ⟨owned, none, false, false⟩) ∧
    n.streams.get? owned = none ∧ out.2.streams.get? owned = some (some stream) ∧
      ∀ p, p ≠ owned → out.2.streams.get? p = n.streams.get? p
  boxes : out.2.boxes = n.boxes
  lost : out.2.lost = n.lost ++ lost
  /-- The structs of others are kept even if the process is taken down. -/
  kept : ∀ p x, n.streams.get? p = some x → out.2.streams.get? p = some x

section Create

variable {E : Engine T} {env : ArrowEnv} {runtime dataframe : Addr} {n : Native T}
  {out : Outcome (Stream T)}

/-- The outer handler gives the allocator back. -/
theorem exec_rethrowClosingAllocator_eq {t : Throwable} {c : Collect T}
    (h : c.arrow = ⟨0, [], 0⟩) :
    (rethrowClosingAllocator t : ReaderM T α).exec c =
      (.error (Stop.orAssertionError "unexpected error creating RecordBatchReader" (.thrown t)),
        { c with arrow := ⟨0, [0], 0⟩ }) := by
  unfold rethrowClosingAllocator
  rw [Prog.exec_bind_ok (Reading.exec_closeAllocator h)]
  cases t <;> rfl

/-- On live handles the stream is that of the plan. -/
theorem collectOutcome_live {boxes : Store (Obj T)} {df : T.Plan}
    (hrt : boxes.get? runtime = some .runtime)
    (hdf : boxes.get? dataframe = some (.dataframe df)) :
    collectOutcome E runtime dataframe boxes = exported E df := by
  have hrt0 : runtime ≠ 0 := by
    rintro rfl
    cases hrt
  have hdf0 : dataframe ≠ 0 := by
    rintro rfl
    cases hdf
  rw [collectOutcome, assertNotNull_of_ne hrt0, assertNotNull_of_ne hdf0, runtimeAt, planAt, hrt,
    hdf]
  rfl

/-- What Rust leaves in the struct. -/
theorem exec_collect_call {p : Addr} (hp : p ≠ 0) (hempty : n.content p = none) (arrow : Arrow) :
    ∃ n', (inNative (call E .empty (.dataframeCollect runtime dataframe p))).exec ⟨n, arrow⟩ =
        ((seen (collectOutcome E runtime dataframe n.boxes)).map fun _ => 0, ⟨n', arrow⟩) ∧
      n'.boxes = n.boxes ∧
      (n'.streams = (collectOutcome E runtime dataframe n.boxes).toOption.elim n.streams
        fun stream => n.streams.put p (some stream)) ∧ n'.lost = n.lost := by
  have hbody := exec_dataframeCollect_eq E runtime dataframe
    (n.log (.call (.dataframeCollect runtime dataframe p))) hp
  have hboxes : (n.log (.call (.dataframeCollect runtime dataframe p))).boxes = n.boxes := rfl
  rw [hboxes] at hbody
  rw [inNative, Prog.exec_zoom]
  cases hc : collectOutcome E runtime dataframe n.boxes with
  | error f =>
      rw [hc] at hbody
      obtain ⟨n', hcall, hboxes, hstreams, hlost⟩ :=
        call_seen .empty (.dataframeCollect runtime dataframe p) hbody
      rw [hcall]
      exact ⟨n', rfl, hboxes, hstreams, hlost⟩
  | ok stream =>
      rw [hc] at hbody
      obtain ⟨n', hcall, hboxes, hstreams, hlost⟩ :=
        call_seen .empty (.dataframeCollect runtime dataframe p) hbody
      rw [hcall]
      exact ⟨n', rfl, hboxes, hstreams, hlost.trans (Native.lost_populate hempty stream)⟩

/-- The handlers of `create`, on a struct that has been allocated and may
have been populated. -/
theorem collected_of_thrown {x : ReaderM T (RecordBatchReaderImpl T)} {t : Throwable}
    {c : Collect T}
    {n₁ : Native T} {p : Addr} (hx : x.exec ⟨n₁, ⟨1, [], 0⟩⟩ = (.error (.thrown t), c))
    (harrow : c.arrow = ⟨1, [], 0⟩) (hlive : c.native.streams.Live p) :
    (catchThrowable (catchThrowable x (rethrowClosingStream p)) rethrowClosingAllocator).exec
        ⟨n₁, ⟨1, [], 0⟩⟩ =
      (.error (Stop.orAssertionError "unexpected error creating RecordBatchReader" (.thrown t)),
        ⟨c.native.freeStruct p, ⟨0, [0], 0⟩⟩) := by
  have hinner : (catchThrowable x (rethrowClosingStream p)).exec ⟨n₁, ⟨1, [], 0⟩⟩ =
      (.error (.thrown t), ⟨c.native.freeStruct p, ⟨0, [], 0⟩⟩) := by
    rw [exec_catchThrowable_thrown hx, rethrowClosingStream,
      Prog.exec_bind_ok (exec_closeStream hlive), harrow]
    rfl
  rw [exec_catchThrowable_thrown hinner, exec_rethrowClosingAllocator_eq rfl]

/-- A handler sees of a computation only how it runs. -/
theorem exec_catchThrowable_congr {σ : Type} {x x' : Prog σ Stop α}
    {handler : Throwable → Prog σ Stop α} {s s' : σ} (h : x.exec s = x'.exec s') :
    (catchThrowable x handler).exec s = (catchThrowable x' handler).exec s' := by
  rcases hx : x.exec s with ⟨(t | -) | a, c⟩
  · rw [exec_catchThrowable_thrown hx, exec_catchThrowable_thrown (h.symm.trans hx)]
  · rw [exec_catchThrowable_aborted hx, exec_catchThrowable_aborted (h.symm.trans hx)]
  · rw [exec_catchThrowable_ok hx, exec_catchThrowable_ok (h.symm.trans hx)]

/-- The struct of a `create` that fails is gone as if it had never been. -/
theorem get?_struct_freed {streams : Store (Option (Stream T))} {o : Option (Stream T)}
    (h : streams = (n.streams.alloc none).2.put (n.streams.alloc none).1 o) (q : Addr) :
    (streams.free (n.streams.alloc none).1).get? q = n.streams.get? q := by
  by_cases hq : q = (n.streams.alloc none).1
  · subst hq
    rw [Store.get?_free_self, Store.get?_alloc_fst]
  · rw [Store.get?_free_of_ne hq, h, Store.get?_put_of_ne hq, Store.get?_alloc_of_ne hq]

/-- The state in which the struct has been allocated. -/
private def withStruct (n : Native T) : Native T :=
  { n with streams := (n.streams.alloc none).2 }

/-- A `create` that has allocated its struct. -/
theorem exec_create_allocated (halloc : env.allocateNew = none) :
    (RecordBatchReaderImpl.create E env runtime dataframe).exec ⟨n, .new⟩ =
      (catchThrowable (catchThrowable
          (collectInto E env runtime dataframe (n.streams.alloc none).1)
          (rethrowClosingStream (n.streams.alloc none).1)) rethrowClosingAllocator).exec
        ⟨withStruct n, ⟨1, [], 0⟩⟩ :=
  exec_catchThrowable_congr (Prog.exec_bind_ok (exec_allocateNew n halloc))

/-- What `collect` makes of a `create`. -/
def collectEnd (out : Except Stop (RecordBatchReaderImpl T) × Collect T) :
    Except Stop (Arrow × RecordBatchReaderImpl T) × Native T :=
  match out with
  | (.ok reader, s) => (.ok (s.arrow, reader), s.native)
  | (.error e, s) => (.error e, s.native)

/-- A `create` that throws after its struct has been allocated. -/
theorem collected_thrown {t : Throwable} {c : Collect T} {o : Option (Stream T)}
    (hx : (collectInto E env runtime dataframe (n.streams.alloc none).1).exec
      ⟨withStruct n, ⟨1, [], 0⟩⟩ = (.error (.thrown t), c))
    (harrow : c.arrow = ⟨1, [], 0⟩) (hboxes : c.native.boxes = n.boxes)
    (hstreams : c.native.streams = (n.streams.alloc none).2.put (n.streams.alloc none).1 o)
    (hlost : c.native.lost = n.lost)
    (halloc : env.allocateNew = none) (hsteps : collectSteps env out = .error (.thrown t)) :
    Collected n (createOutcome env out) o.toList
      (collectEnd ((RecordBatchReaderImpl.create E env runtime dataframe).exec ⟨n, .new⟩)) := by
  have hlive : c.native.streams.Live (n.streams.alloc none).1 := by
    rw [hstreams]
    exact Store.live_put.mpr (Store.live_iff.mpr ⟨none, Store.get?_alloc_self _ _⟩)
  have hget := get?_struct_freed hstreams
  -- what is behind the struct when it is closed is lost
  have hcontent : c.native.content (n.streams.alloc none).1 = o := by
    rw [Native.content, hstreams, Store.get?_put_self (Store.get?_alloc_self _ _)]
    rfl
  have hlost' : (c.native.freeStruct (n.streams.alloc none).1).lost = n.lost ++ o.toList := by
    rw [Native.freeStruct, hcontent, hlost]
  rw [exec_create_allocated halloc, collected_of_thrown hx harrow hlive, createOutcome, hsteps]
  refine ⟨?_, fun _ h => (by cases h), hboxes, hlost', fun p x h => (hget p).trans h⟩
  rintro e ⟨⟩
  exact ⟨rfl, fun _ => hget⟩

/-- A reader is made of a populated struct. -/
theorem collected_made {stream : Stream T} {n' : Native T} (halloc : env.allocateNew = none)
    (himport : env.importArrayStream = none) (hsteps : collectSteps env out = .ok stream)
    (hboxes : n'.boxes = n.boxes)
    (hstreams : n'.streams = (n.streams.alloc none).2.put (n.streams.alloc none).1 (some stream))
    (hlost : n'.lost = n.lost)
    (hx : (collectInto E env runtime dataframe (n.streams.alloc none).1).exec
      ⟨withStruct n, ⟨1, [], 0⟩⟩ = ((do
        let reader ← importArrayStream env (n.streams.alloc none).1
        pure ⟨reader, none, false, false⟩ : ReaderM T (RecordBatchReaderImpl T)).exec
          ⟨n', ⟨1, [], 0⟩⟩)) :
    Collected n (createOutcome env out) []
      (collectEnd ((RecordBatchReaderImpl.create E env runtime dataframe).exec ⟨n, .new⟩)) := by
  have hget : n'.streams.get? (n.streams.alloc none).1 = some (some stream) := by
    rw [hstreams]
    exact Store.get?_put_self (Store.get?_alloc_self _ _)
  have hne : (n'.streams.alloc (some stream)).1 ≠ (n.streams.alloc none).1 := fun h =>
    Store.not_live_alloc n'.streams (some stream) (h ▸ Store.live_iff.mpr ⟨_, hget⟩)
  rw [Prog.exec_bind_ok (exec_importArrayStream himport hget), Prog.exec_pure] at hx
  -- the reader's own struct is new, and the other one is gone again
  have hothers : ∀ q, q ≠ (n'.streams.alloc (some stream)).1 →
      (((n'.streams.alloc (some stream)).2.put (n.streams.alloc none).1 none).free
        (n.streams.alloc none).1).get? q = n.streams.get? q := by
    intro q hq
    by_cases hp : q = (n.streams.alloc none).1
    · subst hp
      rw [Store.get?_free_self, Store.get?_alloc_fst]
    · rw [Store.get?_free_of_ne hp, Store.get?_put_of_ne hp, Store.get?_alloc_of_ne hq, hstreams,
        Store.get?_put_of_ne hp, Store.get?_alloc_of_ne hp]
  have hfresh : n.streams.get? (n'.streams.alloc (some stream)).1 = none := by
    have hnew := Store.get?_alloc_fst n'.streams (some stream)
    rwa [hstreams, Store.get?_put_of_ne (hstreams ▸ hne), Store.get?_alloc_of_ne (hstreams ▸ hne),
      ← hstreams] at hnew
  rw [exec_create_allocated halloc, exec_catchThrowable_ok (exec_catchThrowable_ok hx),
    createOutcome, hsteps]
  refine ⟨fun _ h => (by cases h), ?_, hboxes, ?_, fun q x hq => ?_⟩
  · rintro _ ⟨⟩
    refine ⟨_, rfl, hfresh, ?_, hothers⟩
    exact (Store.get?_free_of_ne hne).trans
      ((Store.get?_put_of_ne hne).trans (Store.get?_alloc_self _ _))
  · rw [List.append_nil]
    exact hlost
  · refine (hothers q ?_).trans hq
    rintro rfl
    rw [hfresh] at hq
    cases hq

/-- The outcome of a `create` whose call is made. -/
theorem collectSteps_invoked (halloc : env.allocateNew = none) (hinvoke : env.invoke = none) :
    collectSteps env out =
      seen out >>= fun stream => attempt env.importArrayStream >>= fun _ => pure stream := by
  rw [collectSteps, halloc, hinvoke]
  rfl

/-- A `create` whose stream is not exported. -/
theorem collected_unexported {f : Fault} {n' : Native T} (halloc : env.allocateNew = none)
    (hinvoke : env.invoke = none)
    (hx : (collectInto E env runtime dataframe (n.streams.alloc none).1).exec
      ⟨withStruct n, ⟨1, [], 0⟩⟩ = (.error f.stop, ⟨n', ⟨1, [], 0⟩⟩))
    (hboxes : n'.boxes = n.boxes) (hstreams : n'.streams = (n.streams.alloc none).2)
    (hlost : n'.lost = n.lost) :
    Collected n (createOutcome env (.error f)) []
      (collectEnd ((RecordBatchReaderImpl.create E env runtime dataframe).exec ⟨n, .new⟩)) := by
  have hsteps : collectSteps env (.error f : Outcome (Stream T)) = .error f.stop :=
    collectSteps_invoked halloc hinvoke
  have hunset : n'.streams = (n.streams.alloc none).2.put (n.streams.alloc none).1 none :=
    hstreams.trans (Store.put_of_get? (Store.get?_alloc_self _ _)).symm
  cases hstop : f.stop with
  | thrown t =>
      rw [hstop] at hx hsteps
      exact collected_thrown hx rfl hboxes hunset hlost halloc hsteps
  | aborted =>
      rw [hstop] at hx hsteps
      rw [exec_create_allocated halloc, exec_catchThrowable_aborted
        (exec_catchThrowable_aborted hx), createOutcome, hsteps]
      refine ⟨?_, fun _ h => (by cases h), hboxes, ?_, fun p x h => ?_⟩
      · rintro e ⟨⟩
        exact ⟨rfl, fun h => absurd rfl h⟩
      · rw [List.append_nil]
        exact hlost
      · show n'.streams.get? p = some x
        rw [hstreams]
        exact Store.get?_alloc_of_some h

/-- A `create` whose stream is exported, and imported or not. -/
theorem collected_exported {stream : Stream T} {n' : Native T} (halloc : env.allocateNew = none)
    (hinvoke : env.invoke = none)
    (hx : (collectInto E env runtime dataframe (n.streams.alloc none).1).exec
      ⟨withStruct n, ⟨1, [], 0⟩⟩ = ((do
        let reader ← importArrayStream env (n.streams.alloc none).1
        pure ⟨reader, none, false, false⟩ : ReaderM T (RecordBatchReaderImpl T)).exec
          ⟨n', ⟨1, [], 0⟩⟩))
    (hboxes : n'.boxes = n.boxes)
    (hstreams : n'.streams =
      (n.streams.alloc none).2.put (n.streams.alloc none).1 (some stream))
    (hlost : n'.lost = n.lost) :
    Collected n (createOutcome env (.ok stream)) (unimported env (.ok stream)).toList
      (collectEnd ((RecordBatchReaderImpl.create E env runtime dataframe).exec ⟨n, .new⟩)) := by
  have hsteps : collectSteps env (.ok stream : Outcome (Stream T)) =
      attempt env.importArrayStream >>= fun _ => pure stream :=
    collectSteps_invoked halloc hinvoke
  cases himport : env.importArrayStream with
  | some t =>
      have himportThrows : (importArrayStream env (n.streams.alloc none).1).exec
          (⟨n', ⟨1, [], 0⟩⟩ : Collect T) = (.error (.thrown t), ⟨n', ⟨1, [], 0⟩⟩) := by
        unfold importArrayStream
        rw [himport]
        rfl
      have hleft : unimported env (.ok stream) = some stream := by
        rw [unimported, halloc, hinvoke, himport]
        rfl
      rw [hleft]
      refine collected_thrown (hx.trans (Prog.exec_bind_error himportThrows)) rfl hboxes hstreams
        hlost halloc ?_
      rw [hsteps, himport]
      rfl
  | none =>
      have hleft : unimported env (.ok stream) = none := by
        rw [unimported, halloc, hinvoke, himport]
      rw [hleft]
      refine collected_made halloc himport ?_ hboxes hstreams hlost hx
      rw [hsteps, himport]
      rfl

/-- **Creating a reader**, whatever the handles are. -/
theorem collected_create :
    Collected n (createOutcome env (collectOutcome E runtime dataframe n.boxes))
      (unimported env (collectOutcome E runtime dataframe n.boxes)).toList
      (collectEnd ((RecordBatchReaderImpl.create E env runtime dataframe).exec ⟨n, .new⟩)) := by
  cases halloc : env.allocateNew with
  | some t =>
      have hexec : (RecordBatchReaderImpl.create E env runtime dataframe).exec ⟨n, .new⟩ =
          (.error (Stop.orAssertionError "unexpected error creating RecordBatchReader" (.thrown t)),
            ⟨n, ⟨0, [0], 0⟩⟩) :=
        (exec_catchThrowable_thrown (Prog.exec_bind_error (exec_allocateNew_error halloc _))).trans
          (exec_rethrowClosingAllocator_eq (c := ⟨n, .new⟩) rfl)
      have hleft : unimported env (collectOutcome E runtime dataframe n.boxes) = none := by
        rw [unimported, halloc]
      rw [hexec, createOutcome, collectSteps, halloc, hleft]
      refine ⟨?_, fun _ h => (by cases h), rfl, (List.append_nil _).symm, fun _ _ h => h⟩
      rintro e ⟨⟩
      exact ⟨rfl, fun _ _ => rfl⟩
  | none =>
      cases hinvoke : env.invoke with
      | some t =>
          have hleft : unimported env (collectOutcome E runtime dataframe n.boxes) = none := by
            rw [unimported, halloc, hinvoke]
          rw [hleft]
          refine collected_thrown (exec_collectInto_error hinvoke _) rfl rfl
            (Store.put_of_get? (Store.get?_alloc_self _ _)).symm rfl halloc ?_
          rw [collectSteps, halloc, hinvoke]
          rfl
      | none =>
          have hempty : (withStruct n).content (n.streams.alloc none).1 = none := by
            rw [Native.content, withStruct, Store.get?_alloc_self]
            rfl
          obtain ⟨n', hcall, hboxes, hstreams, hlost⟩ := exec_collect_call (E := E)
            (n := withStruct n) (Store.alloc_ne_null n.streams none) hempty ⟨1, [], 0⟩
          have hinto : (collectInto E env runtime dataframe (n.streams.alloc none).1).exec
              ⟨withStruct n, ⟨1, [], 0⟩⟩ = _ := exec_invokeCollect hinvoke
          have hunchanged : (withStruct n).boxes = n.boxes := rfl
          rw [Prog.exec_bind, hcall, hunchanged] at hinto
          rw [hunchanged] at hstreams
          cases hexp : collectOutcome E runtime dataframe n.boxes with
          | error f =>
              rw [hexp] at hinto hstreams
              have hleft : unimported env (.error f : Outcome (Stream T)) = none := by
                rw [unimported, halloc, hinvoke]
                cases env.importArrayStream <;> rfl
              rw [hleft]
              exact collected_unexported halloc hinvoke hinto hboxes hstreams hlost
          | ok stream =>
              rw [hexp] at hinto hstreams
              exact collected_exported halloc hinvoke hinto hboxes hstreams hlost

end Create

section CollectMethod

variable (E : Engine T) (env : ArrowEnv) (n : Native T) {w : DataFusionDataFrameImpl}

/-- A closed frame is not collected. -/
theorem exec_collect_closed (h : w.pointer = 0) :
    (w.collect E env).exec n =
      (.error (.thrown (.illegalStateException "DataFrame is closed")), n) := by
  obtain ⟨p, rp, c⟩ := w
  obtain rfl : p = 0 := h
  rfl

/-- An open one makes a reader. -/
theorem exec_collect_open (h : w.pointer ≠ 0) :
    (w.collect E env).exec n =
      collectEnd
        ((RecordBatchReaderImpl.create E env w.runtimePointer w.pointer).exec ⟨n, .new⟩) := by
  rw [DataFusionDataFrameImpl.collect, DataFusionDataFrameImpl.nativePointer,
    exec_openPointer_open h]
  rfl

/-- **Collecting an open frame**, whatever its handles are. -/
theorem collected_collect (h : w.pointer ≠ 0) :
    Collected n (createOutcome env (collectOutcome E w.runtimePointer w.pointer n.boxes))
      (unimported env (collectOutcome E w.runtimePointer w.pointer n.boxes)).toList
      ((w.collect E env).exec n) := by
  rw [exec_collect_open E env n h]
  exact collected_create

/-- How `collect` ends. -/
theorem ends_collect {plan : Option T.Plan} (hw : Stands n.boxes w.pointer (plan.map .dataframe))
    (hrt : plan ≠ none → n.boxes.get? w.runtimePointer = some .runtime) :
    ∃ lost, Collected n (collectedOutcome E plan env) lost ((w.collect E env).exec n) := by
  cases plan with
  | none =>
      rw [exec_collect_closed E env n (hw.2 rfl), collectedOutcome]
      refine ⟨[], ?_, fun _ h => (by cases h), rfl, (List.append_nil _).symm, fun _ _ h => h⟩
      rintro e ⟨⟩
      exact ⟨rfl, fun _ _ => rfl⟩
  | some df =>
      rw [collectedOutcome, ← collectOutcome_live (hrt (by simp)) hw.get?]
      exact ⟨_, collected_collect E env n hw.ne_null⟩

end CollectMethod

end DataFusionPanama
