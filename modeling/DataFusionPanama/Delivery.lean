import DataFusionPanama.Correspondence
import DataFusionPanama.Heap

/-!
# DataFusionPanama.Delivery

What a reader delivers.  A reader is given its batches when the frame is
collected, and from then on it depends on nothing but the calls on it:

* `foldl_call` — the calls so far say which batch the reader is at;
* `foldl_readerAfter` — of a program, only the calls on the reader count;
* `reader_delivers` — so it delivers its batches in order, each once.

Closing the frame, its session or its runtime, reading other readers and
collecting the frame again make no difference, and neither do calls that
are not allowed.
-/

namespace DataFusionPanama

variable {T : Types}

/-! ## positions -/

/-- A reader of a stream that has come to its `k`-th batch. -/
def Stream.advanced (stream : Stream T) (k : Nat) : ReaderState T :=
  ⟨stream.schema, if k = 0 then none else stream.batches[k - 1]?, stream.batches.drop k⟩

/-- A call that goes to the next batch, if there is one. -/
def ReaderCall.isNext : ReaderCall → Bool
  | .next none => true
  | _ => false

/-- What a reader of a stream stands for after these calls. -/
def Stream.after (stream : Stream T) (calls : List ReaderCall) : Option (ReaderState T) :=
  if calls.any ReaderCall.isClose then none
  else some (stream.advanced (calls.countP ReaderCall.isNext))

/-- Going on from the `k`-th batch. -/
theorem call_advanced_next (stream : Stream T) (k : Nat) :
    ((stream.advanced k).call (.next none)).2 = some (stream.advanced (k + 1)) := by
  unfold ReaderState.call Stream.advanced
  cases hrest : stream.batches.drop k with
  | nil =>
      have hle : stream.batches.length ≤ k := List.drop_eq_nil_iff.mp hrest
      simp [List.drop_eq_nil_of_le (Nat.le_succ_of_le hle), hle]
  | cons b rest =>
      have hb : stream.batches[k]? = some b := by
        rw [← List.head?_drop, hrest]
        rfl
      have hdrop : stream.batches.drop (k + 1) = rest := by
        rw [← List.tail_drop, hrest]
        rfl
      simp [hb, hdrop]

/-- One call from a position. -/
theorem call_advanced (stream : Stream T) (k : Nat) (call : ReaderCall) :
    ((stream.advanced k).call call).2 = if call.isClose then none
      else some (stream.advanced (if call.isNext then k + 1 else k)) := by
  cases call with
  | next io =>
      cases io with
      | none => exact call_advanced_next stream k
      | some e => rfl
  | getSchema io | getCurrentBatch io | close io => cases io <;> rfl

/-- A closed reader stays closed. -/
theorem foldl_call_none (calls : List ReaderCall) :
    calls.foldl (fun o call => o.bind fun st => (ReaderState.call st call).2)
      (none : Option (ReaderState T)) = none := by
  induction calls with
  | nil => rfl
  | cons call calls ih => exact ih

/-- **The position of a reader** is the number of times it was advanced. -/
theorem foldl_call (stream : Stream T) (calls : List ReaderCall) (k : Nat) :
    calls.foldl (fun o call => o.bind fun st => (ReaderState.call st call).2)
        (some (stream.advanced k)) =
      if calls.any ReaderCall.isClose then none
      else some (stream.advanced (k + calls.countP ReaderCall.isNext)) := by
  induction calls generalizing k with
  | nil => rfl
  | cons call calls ih =>
      rw [List.foldl_cons, Option.bind_some, call_advanced]
      cases hclose : call.isClose with
      | true => simpa [hclose] using foldl_call_none calls
      | false =>
          cases hnext : call.isNext <;> simp [ih, hclose, hnext, Nat.add_assoc, Nat.add_comm 1]

/-! ## a program -/

/-- The calls of a program on one of its readers. -/
def callsOn (i : Nat) (steps : List (Step T)) : List ReaderCall :=
  steps.filterMap fun s => match s.2 with
    | .reader j call => if j = i then some call else none
    | _ => none

/-- Of the steps of a program, only the calls on a reader change it. -/
theorem foldl_readerAfter (i : Nat) (steps : List (Step T)) (o : Option (ReaderState T)) :
    steps.foldl (fun o s => readerAfter s i o) o =
      (callsOn i steps).foldl (fun o call => o.bind fun st => (ReaderState.call st call).2) o := by
  induction steps generalizing o with
  | nil => rfl
  | cons s steps ih =>
      obtain ⟨E, call⟩ := s
      cases call with
      | reader j call =>
          by_cases hj : j = i <;> simp [callsOn, readerAfter, hj] at ih ⊢ <;> exact ih _
      | _ => exact ih o

section Run

variable {p : Process T}

/-- A process that is there has always been there. -/
theorem Process.running_of_after {s : Step T} (h : (p.after s).halted = false) :
    p.halted = false := by
  cases hp : p.halted with
  | false => rfl
  | true => rwa [after_of_halted hp, hp] at h

/-- A process that is running was running before. -/
theorem Process.running_of_run {steps : List (Step T)} (h : (p.run steps).halted = false) :
    p.halted = false := by
  induction steps generalizing p with
  | nil => exact h
  | cons s steps ih => exact running_of_after (ih h)

/-- **A run** goes on with the readers there are. -/
theorem Reads.run {states : List (Option (ReaderState T))} (steps : List (Step T))
    (h : Reads p.native.streams p.readers states) (hrun : (p.run steps).halted = false) :
    ∃ states', Reads (p.run steps).native.streams (p.run steps).readers states' ∧
      ∀ i o, states[i]? = some o →
        states'[i]? = some (steps.foldl (fun o s => readerAfter s i o) o) := by
  induction steps generalizing p states with
  | nil => exact ⟨states, h, fun _ _ ho => ho⟩
  | cons s steps ih =>
      obtain ⟨states₁, h₁, hnext, -⟩ := h.after s (Process.running_of_run hrun)
      obtain ⟨states₂, h₂, hrest⟩ := ih h₁ hrun
      exact ⟨states₂, h₂, fun i o ho => hrest i _ (hnext i o ho)⟩

/-- A reader shows what it stands for. -/
theorem see_reader {states : List (Option (ReaderState T))}
    (h : Reads p.native.streams p.readers states) (hp : p.halted = false) {i : Nat}
    {o : Option (ReaderState T)} (ho : states[i]? = some o) (E : Engine T) (call : ReaderCall) :
    p.see (E, .reader i call) = some (o.elim call.afterClose fun st => (st.call call).1) := by
  rw [see_of_running hp]
  cases hr : p.readers[i]? with
  | none =>
      rw [h.stands.get_none hr] at ho
      cases ho
  | some r =>
      obtain ⟨o', ho', hst⟩ := h.stands.get hr
      obtain rfl : o = o' := Option.some.inj (ho.symm.trans ho')
      have hsee := (Reading.reader_call (s := ⟨⟨p.native, r.1⟩, r.2⟩) call hst).1
      simp only [hr, Option.map_some, hsee]
      cases o <;> rfl

/-! ## delivery -/

/-- A reader is created for what the native call exports. -/
theorem createOutcome_ok {env : ArrowEnv} {o : Outcome (Stream T)} {stream : Stream T}
    (h : createOutcome env o = .ok stream) : o = .ok stream := by
  obtain ⟨_ | _, _ | _, _ | _⟩ := env <;> cases o <;> cases h
  rfl

/-- A collect that returns has exported the stream of the frame. -/
theorem collected_of_reply {E : Engine T} {d : Nat} {env : ArrowEnv}
    (h : p.reply (E, .collect d env) = some (.ok ())) :
    ∃ w stream, p.frame? d = some w ∧
      collectOutcome E w.runtimePointer w.pointer p.native.boxes = .ok stream ∧
      p.collected (E, .collect d env) = some stream := by
  have hp : p.halted = false := by
    cases hp : p.halted with
    | false => rfl
    | true =>
        rw [Process.reply_of_halted hp] at h
        cases h
  rw [Process.reply, Process.step_of_running _ _ hp, Process.perform] at h
  cases hw : p.frame? d with
  | none =>
      rw [hw] at h
      cases h
  | some w =>
      simp only [hw, Process.on, Process.invoke] at h
      by_cases hne : w.pointer = 0
      · rw [exec_collect_closed E env p.native hne] at h
        cases h
      · have hcollected := collected_collect E env p.native hne
        cases ho : createOutcome env
            (collectOutcome E w.runtimePointer w.pointer p.native.boxes) with
        | error e =>
            obtain ⟨hout, -⟩ := hcollected.failed e ho
            rcases hx : (w.collect E env).exec p.native with ⟨out, n⟩
            rw [hx] at h hout
            obtain rfl : out = .error e := hout
            cases h
        | ok stream =>
            refine ⟨w, stream, rfl, createOutcome_ok ho, ?_⟩
            change (p.frame? d).bind _ = some stream
            rw [hw, Option.bind_some, if_neg hne, ho]
            rfl

end Run

/-- **A reader delivers what was collected.**  A collect that returns has
collected a stream, and whatever the program does after it, on this reader
and everything else, any call on the reader shows what it shows on that
stream after as many batches as the reader has been advanced by, or that it
has been closed. -/
theorem reader_delivers (before : List (Step T)) (E : Engine T) (d : Nat) (env : ArrowEnv)
    (h : (Process.start.run before).reply (E, .collect d env) = some (.ok ())) :
    ∃ w stream, (Process.start.run before).frame? d = some w ∧
      collectOutcome E w.runtimePointer w.pointer (Process.start.run before).native.boxes =
        .ok stream ∧
      ∀ (after : List (Step T)) (E' : Engine T) (call : ReaderCall),
        (Process.start.run (before ++ (E, .collect d env) :: after)).halted = false →
        (Process.start.run (before ++ (E, .collect d env) :: after)).see
            (E', .reader (Process.start.run before).readers.length call) =
          some ((stream.after (callsOn (Process.start.run before).readers.length after)).elim
            call.afterClose fun st => (st.call call).1) := by
  obtain ⟨w, stream, hw, hstream, hcollected⟩ := collected_of_reply h
  refine ⟨w, stream, hw, hstream, fun after E' call hrun => ?_⟩
  rw [Process.run, List.foldl_append, List.foldl_cons] at hrun ⊢
  obtain ⟨states, hreads⟩ := (Process.held_run before).reads
  obtain ⟨states₁, h₁, -, hnew⟩ :=
    hreads.after (E, .collect d env) (Process.running_of_after (Process.running_of_run hrun))
  obtain ⟨states₂, h₂, hrest⟩ := h₁.run after hrun
  rw [see_reader h₂ hrun (hrest _ _ (hnew stream hcollected)), foldl_readerAfter]
  exact congrArg (fun o => some (Option.elim o _ _)) ((foldl_call stream _ 0).trans (by
    rw [Nat.zero_add]
    rfl))

/-- The frame has been closed, and with it its session and its runtime. -/
theorem reader_delivers_collectTwice :
    (Process.start.run (Process.collectTwice.take 3 ++
        (planEngine, .collect 0 ⟨none, none, none⟩) :: Process.collectTwice.drop 4)).see
      (planEngine, .reader 0 (.getCurrentBatch none)) = some (.batch (.ok (some 1))) := by
  obtain ⟨w, stream, hw, hstream, hdelivers⟩ :=
    reader_delivers (Process.collectTwice.take 3) planEngine 0 ⟨none, none, none⟩ rfl
  obtain rfl : w = ⟨3, 1, false⟩ := Option.some.inj (hw.symm.trans rfl)
  obtain rfl : stream = ⟨(), [1]⟩ := Except.ok.inj (hstream.symm.trans rfl)
  exact hdelivers (Process.collectTwice.drop 4) planEngine (.getCurrentBatch none) rfl

end DataFusionPanama
