import DataFusionPanama.Java.Jvm

/-!
# DataFusionPanama.Java.NativeLibrary

Entering native code and taking its result apart.  `unwrapOrThrow` is the
Java end of the result channel; `exec_channel` composes it with
`ffi_result!`: whatever the body, its value comes back as it is and its
fault as a `DataFusionException` with the fault's text, and the boxed
`DFResult` lives exactly from the one side to the other.
-/

namespace DataFusionPanama

variable {T : Types} {α : Type}

/-- A call that returns a `*mut DFResult`, or takes the process down. -/
def downcall (f : Native T → CallEnd × Native T) : JavaM T Addr := fun n =>
  match f n with
  | (.returned r, n') => (.ok r, n')
  | (.aborted, n') => (.error .aborted, n')

/-- `F.invokeExact(..)` -/
def invokeExact (E : Engine T) (mem : Mem) (c : Downcall) : JavaM T Addr := do
  .updates fun n => ((), n.log (.call c))
  downcall (c.invoke E mem)

/-- `new String(bytes, UTF_8)`; the bytes of a message are never malformed. -/
def stringOfUtf8 (bs : List UInt8) : JString :=
  match fromUtf8 bs with
  | some t => encodeUtf16 t
  | none => [0xFFFD]

/-- `msgPtr.reinterpret(Long.MAX_VALUE).getString(0)`; reading at null takes
the process down. -/
def getString (E : Engine T) (msgPtr : MsgPtr) : JavaM T JString :=
  match msgPtr with
  | .null => throw .aborted
  | .messageOf r => do
      .updates fun n => ((), n.enter (.read r))
      .reads fun n => match (derefResult E n r).error with
        | some s => .ok (stringOfUtf8 s.bytes)
        | none => .error .aborted

/-- Inspects a `DFResult` pointer: returns the success value or throws.  The
result is always freed. -/
def unwrapOrThrow (E : Engine T) (resultPtr : Addr) : JavaM T Addr :=
  tryFinally (tryNative do
    let ok ← .updates (resultIsOk E resultPtr)
    if ok then
      .updates (resultUnwrap E resultPtr)
    else do
      let msgPtr ← .updates (resultErrorMessage E resultPtr)
      let message ← getString E msgPtr
      throwing (.dataFusionException message)) (resultFree resultPtr)

/-- A native call, with its result unwrapped. -/
def call (E : Engine T) (mem : Mem) (c : Downcall) : JavaM T Addr := do
  let resultPtr ← invokeExact E mem c
  unwrapOrThrow E resultPtr

/-! ## the result channel -/

/-- What a body's outcome is on the Java side. -/
def channelEnd : Outcome Addr → Except Stop Addr
  | .ok v => .ok v
  | .error f => .error (.thrown (.dataFusionException (encodeUtf16 f.text)))

/-- How often a result is read: the flag and the value, or the flag, the
message pointer and the message. -/
def channelReads : Outcome Addr → Nat
  | .ok _ => 2
  | .error _ => 3

/-- The address of the next boxed result. -/
def Native.nextResult (n : Native T) : Addr := n.results.cells.length + 1

/-- A state after a result has been boxed, read and freed. -/
def Native.settled (n : Native T) (reads : Nat) : Native T :=
  { n with
    results := ⟨n.results.cells ++ [none]⟩
    ledger := n.ledger ++
      (.new n.nextResult :: List.replicate reads (.read n.nextResult) ++ [.free n.nextResult]) }

/-- A result that has come and gone is no object. -/
theorem Native.same_settled (n : Native T) (reads : Nat) : Same n (n.settled reads) :=
  ⟨fun _ => rfl, rfl, rfl⟩

/-- A message that was written is read back. -/
private theorem stringOfUtf8_utf8 (t : Text) : stringOfUtf8 (utf8 t) = encodeUtf16 t := by
  rw [stringOfUtf8, fromUtf8_utf8]

/-- The ledger is not read. -/
@[simp] theorem derefResult_enter (E : Engine T) (n : Native T) (e : ResultEvent) (p : Addr) :
    derefResult E (n.enter e) p = derefResult E n p := rfl

/-- A live result is read as it is. -/
private theorem derefResult_of_some {E : Engine T} {n : Native T} {p : Addr} {r : DFResult}
    (h : n.results.get? p = some r) : derefResult E n p = r := by
  rw [derefResult, h]

section Unwrap

variable {E : Engine T} {n : Native T} {p : Addr}

/-- Unwrapping a live success. -/
theorem exec_unwrapOrThrow_ok {v : Addr} (h : n.results.get? p = some (.ok v)) :
    (unwrapOrThrow E p).exec n =
      (.ok v, resultFree p ((n.enter (.read p)).enter (.read p))) := by
  have hok : resultIsOk E p n = (true, n.enter (.read p)) := by
    rw [resultIsOk, derefResult_of_some h]
    rfl
  have hv : resultUnwrap E p (n.enter (.read p)) = (v, (n.enter (.read p)).enter (.read p)) := by
    rw [resultUnwrap, derefResult_enter, derefResult_of_some h]
    rfl
  refine exec_tryFinally ?_ (by simp)
  rw [tryNative, Prog.exec_mapError, Prog.exec_bind, Prog.exec_updates, hok]
  simp only [if_true, Prog.exec_updates, hv]
  rfl

/-- Unwrapping a live failure. -/
theorem exec_unwrapOrThrow_error {s : CString} {t : Text} (ht : s.bytes = utf8 t)
    (h : n.results.get? p = some ⟨0, some s⟩) :
    (unwrapOrThrow E p).exec n =
      (.error (.thrown (.dataFusionException (encodeUtf16 t))),
        resultFree p (((n.enter (.read p)).enter (.read p)).enter (.read p))) := by
  have hok : resultIsOk E p n = (false, n.enter (.read p)) := by
    rw [resultIsOk, derefResult_of_some h]
    rfl
  have hmsg : resultErrorMessage E p (n.enter (.read p)) =
      (.messageOf p, (n.enter (.read p)).enter (.read p)) := by
    rw [resultErrorMessage, derefResult_enter, derefResult_of_some h]
  have hget : (getString E (.messageOf p)).exec ((n.enter (.read p)).enter (.read p)) =
      (.ok (encodeUtf16 t), ((n.enter (.read p)).enter (.read p)).enter (.read p)) := by
    rw [getString, Prog.exec_bind, Prog.exec_updates]
    dsimp only
    rw [Prog.exec_reads, derefResult_enter, derefResult_enter, derefResult_enter,
      derefResult_of_some h]
    dsimp only
    rw [ht, stringOfUtf8_utf8]
  refine exec_tryFinally ?_ (by simp)
  rw [tryNative, Prog.exec_mapError, Prog.exec_bind, Prog.exec_updates, hok]
  simp only [Bool.false_eq_true, if_false]
  rw [Prog.exec_bind, Prog.exec_updates, hmsg]
  dsimp only
  rw [Prog.exec_bind_ok hget]
  rfl

end Unwrap

/-- Freeing the newest box leaves no trace of what was in it. -/
private theorem free_alloc (s : Store DFResult) (r : DFResult) :
    (s.alloc r).2.free (s.alloc r).1 = ⟨s.cells ++ [none]⟩ := by
  simp [Store.alloc, Store.free]

/-- **The result channel**: through `ffi_result!` and `unwrapOrThrow`, a
body's outcome arrives unchanged, and its `DFResult` is boxed, read and
freed once. -/
theorem exec_channel {E : Engine T} {body : FfiM T Addr} {n n₁ : Native T} {o : Outcome Addr}
    (hb : body.exec n = (o, n₁)) (hnul : ∀ f, o = .error f → nul ∉ f.text) :
    (downcall (ffiResult body) >>= unwrapOrThrow E).exec n =
      (channelEnd o, n₁.settled (channelReads o)) := by
  -- the state in which the boxed result is unwrapped
  have hbound : ∀ r, dfResult o = .ok r →
      (downcall (ffiResult body) >>= unwrapOrThrow E).exec n =
        (unwrapOrThrow E n₁.nextResult).exec
          ({ n₁ with results := (n₁.results.alloc r).2 }.enter (.new n₁.nextResult)) := by
    intro r hr
    apply Prog.exec_bind_ok
    change (match ffiResult body n with | (.returned r, n') => _ | (.aborted, n') => _) = _
    rw [ffiResult_returned hb hr]
    rfl
  have hlive : ∀ r, ({ n₁ with results := (n₁.results.alloc r).2 }.enter
      (.new n₁.nextResult)).results.get? n₁.nextResult = some r :=
    fun r => Store.get?_alloc_self n₁.results r
  have hne : n₁.nextResult ≠ 0 := Nat.succ_ne_zero _
  have hfree := free_alloc n₁.results
  cases o with
  | ok v =>
      rw [hbound (.ok v) rfl, exec_unwrapOrThrow_ok (hlive _), resultFree, if_neg hne]
      simp only [Native.enter, Native.settled, channelEnd, channelReads,
        Native.nextResult] at hfree ⊢
      simp [Store.alloc, Store.free]
  | error f =>
      obtain ⟨s, hs, hr⟩ := dfResult_error_eq_ok (hnul f rfl)
      rw [hbound _ hr, exec_unwrapOrThrow_error hs (hlive _), resultFree, if_neg hne]
      simp [Native.enter, Native.settled, channelEnd, channelReads, Native.nextResult,
        Store.alloc, Store.free]

/-- A fault whose text contains a NUL takes the process down. -/
theorem exec_channel_aborted {E : Engine T} {body : FfiM T Addr} {n n₁ : Native T} {f : Fault}
    (hb : body.exec n = (.error f, n₁)) (hnul : nul ∈ f.text) :
    (downcall (ffiResult body) >>= unwrapOrThrow E).exec n = (.error .aborted, n₁) := by
  apply Prog.exec_bind_error
  change (match ffiResult body n with | (.returned r, n') => _ | (.aborted, n') => _) = _
  rw [ffiResult_aborted hb (dfResult_error_eq_error hnul)]

section Call

variable {E : Engine T} {mem : Mem} {c : Downcall} {n n₁ : Native T} {o : Outcome Addr}

/-- A downcall does not throw: it returns, or there is no process left. -/
theorem invokeExact_error {stop : Stop} (h : (invokeExact E mem c).exec n = (.error stop, n₁)) :
    stop = .aborted := by
  rw [invokeExact, Prog.exec_bind, Prog.exec_updates] at h
  change (match c.invoke E mem (n.log (.call c)) with
    | (.returned r, n') => _ | (.aborted, n') => _) = _ at h
  split at h
  · cases h
  · cases h; rfl

/-- A call is the channel behind its entry in the trace. -/
private theorem exec_call_eq :
    (call E mem c).exec n =
      (downcall (ffiResult (c.body E mem)) >>= unwrapOrThrow E).exec (n.log (.call c)) := by
  rw [call, invokeExact, Prog.exec_bind, Prog.exec_bind, Prog.exec_updates, Prog.exec_bind]
  rfl

/-- A call whose body ends without a NUL in its error text. -/
theorem exec_call (mem : Mem) (c : Downcall)
    (hb : (c.body E mem).exec (n.log (.call c)) = (o, n₁))
    (hnul : ∀ f, o = .error f → nul ∉ f.text) :
    (call E mem c).exec n = (channelEnd o, n₁.settled (channelReads o)) := by
  rw [exec_call_eq, exec_channel hb hnul]

/-- A call whose error has a NUL takes the process down. -/
theorem exec_call_aborted (mem : Mem) (c : Downcall) {f : Fault}
    (hb : (c.body E mem).exec (n.log (.call c)) = (.error f, n₁)) (hnul : nul ∈ f.text) :
    (call E mem c).exec n = (.error .aborted, n₁) := by
  rw [exec_call_eq, exec_channel_aborted hb hnul]

end Call

end DataFusionPanama
