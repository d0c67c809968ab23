import Mathlib.Algebra.Group.Nat.Defs
import DataFusionPanama.Java.Api
import DataFusionPanama.Native.Spec

/-!
# DataFusionPanama.Results

The result channel from end to end: what the caller of an exported function
gets to see of the function's outcome.  On the native side the channel
contains every outcome but one kind, an `Err` whose text cannot be made a C
string; on the Java side a contained outcome arrives unchanged.
-/

namespace DataFusionPanama

variable {T : Types}

/-! ## containment -/

/-- The call returns a non-null result, which is ok exactly when the outcome
is. -/
def Contains (o : Outcome Addr) : CallEnd × Native T → Prop
  | (.returned r, n) => r ≠ 0 ∧ ∃ result, n.results.get? r = some result ∧
      (result.isOk = true ↔ ∃ v, o = .ok v)
  | (.aborted, _) => False

/-- `ffi_result!` contains every outcome it can report. -/
theorem ffiResult_contains {body : FfiM T Addr} {n n₁ : Native T} {o : Outcome Addr}
    (hb : body.exec n = (o, n₁)) (hnul : ∀ f, o = .error f → nul ∉ f.text) :
    Contains o (ffiResult body n) := by
  cases o with
  | ok v =>
      rw [ffiResult_returned hb rfl]
      exact ⟨Store.alloc_ne_null _ _, _, Store.get?_alloc_self _ _,
        ⟨fun _ => ⟨v, rfl⟩, fun _ => rfl⟩⟩
  | error f =>
      obtain ⟨s, -, hr⟩ := dfResult_error_eq_ok (hnul f rfl)
      rw [ffiResult_returned hb hr]
      refine ⟨Store.alloc_ne_null _ _, _, Store.get?_alloc_self _ _, ?_⟩
      constructor
      · intro h
        contradiction
      · rintro ⟨v, hv⟩
        contradiction

/-- An error text with a NUL in it makes `ffi_result!` panic outside its
`catch_unwind`. -/
theorem ffiResult_not_contains {body : FfiM T Addr} {n n₁ : Native T} {f : Fault}
    (hb : body.exec n = (.error f, n₁)) (hnul : nul ∈ f.text) :
    ¬ Contains (.error f) (ffiResult body n) := by
  rw [ffiResult_aborted hb (dfResult_error_eq_error hnul)]
  exact id

/-- **Panics are contained unless an error text contains a NUL**: a call of
an exported function returns a result that says what its body's outcome is,
exactly when the outcome is not an `Err` with U+0000 in its text. -/
theorem invoke_contains_iff (E : Engine T) (mem : Mem) (c : Downcall) (n : Native T) :
    Contains ((c.body E mem).exec n).1 (c.invoke E mem n) ↔
      ∀ e, ((c.body E mem).exec n).1 = .error (.err e) → nul ∉ e := by
  rw [Downcall.invoke]
  rcases hb : (c.body E mem).exec n with ⟨o, n₁⟩
  constructor
  · rintro hc e rfl hnul
    exact ffiResult_not_contains hb hnul hc
  · intro h
    refine ffiResult_contains hb ?_
    rintro (e | msg) rfl
    · exact h e rfl
    · exact nul_notMem_panic msg

/-- An engine whose `count` quotes a data value with a NUL in its error. -/
private def quotingEngine : Engine planTypes :=
  { planEngine with
    count := fun _ => throw (.err "Cannot cast string 'a\x00' to value of Int32 type".toList) }

/-- A runtime at address 1 and a frame at address 2. -/
private def countable : Native planTypes :=
  (Native.empty.box .runtime).box (.dataframe (.query "SELECT 1".toList))

/-- An error that quotes a NUL leaves no result behind. -/
theorem nul_in_error_escapes :
    ¬ ∀ (E : Engine planTypes) (mem : Mem) (c : Downcall) (n : Native planTypes),
      Contains ((c.body E mem).exec n).1 (c.invoke E mem n) := by
  intro h
  have hc := h quotingEngine .empty (.dataframeCount 1 2) countable
  refine @ffiResult_not_contains planTypes _ countable countable _ ?_ ?_ hc
  · rfl
  · decide

/-! ## fidelity -/

/-- A count that is not negative as a `long` is that `long`. -/
theorem address_of_lt {v : Nat} (h : v < 2 ^ 63) : address v = (v : Int) := by
  rw [address, BitVec.toInt_eq_toNat_cond, BitVec.toNat_ofNat, Nat.mod_eq_of_lt (by omega),
    if_pos (by omega)]

/-- A frame method whose own pointer and runtime are live reaches its native
call. -/
theorem DataFusionDataFrameImpl.exec_count {E : Engine T} {self : DataFusionDataFrameImpl}
    {n : Native T} {df : T.Plan} {v : Nat}
    (hrt : n.boxes.get? self.runtimePointer = some .runtime)
    (hdf : n.boxes.get? self.pointer = some (.dataframe df)) (hcount : E.count df = .ok v) :
    ((self.count E).exec n).1 = .ok (address v) := by
  have hopen : self.pointer ≠ 0 := by
    intro h
    rw [h] at hdf
    contradiction
  have hb : ((Downcall.dataframeCount self.runtimePointer self.pointer).body E .empty).exec
      (n.log (.call (.dataframeCount self.runtimePointer self.pointer))) =
      (.ok v, n.log (.call (.dataframeCount self.runtimePointer self.pointer))) := by
    rw [Downcall.body, exec_dataframeCount (n := n.log _) hrt hdf, hcount]
  rw [count, tryNative, Prog.exec_mapError, nativePointer, openPointer, if_neg hopen, pure_bind,
    Prog.exec_bind_ok (exec_call _ _ hb (by simp))]
  rfl

/-- **The result channel is faithful.**  Through `ffi_result!` and
`unwrapOrThrow` a value comes back as it is, an error throws its text and a
panic throws `internal panic`; the `DFResult` in between is new, is read
only before it is freed, and is freed once.  So `count` returns the number
of rows. -/
theorem result_channel_faithful (E : Engine T) :
    (∀ (body : FfiM T Addr) (n : Native T),
      (∀ e, (body.exec n).1 = .error (.err e) → nul ∉ e) →
      let n₁ := (body.exec n).2
      let out := (downcall (ffiResult body) >>= unwrapOrThrow E).exec n
      (∀ v, (body.exec n).1 = .ok v → out.1 = .ok v) ∧
      (∀ e, (body.exec n).1 = .error (.err e) →
        out.1 = .error (.thrown (.dataFusionException (encodeUtf16 e)))) ∧
      (∀ msg, (body.exec n).1 = .error (.panic msg) →
        out.1 = .error (.thrown (.dataFusionException (encodeUtf16 "internal panic".toList)))) ∧
      ∃ r reads, r ≠ 0 ∧ ¬ n₁.results.Live r ∧ ¬ out.2.results.Live r ∧
        out.2.ledger = n₁.ledger ++ (.new r :: List.replicate reads (.read r) ++ [.free r])) ∧
    (∀ (self : DataFusionDataFrameImpl) (n : Native T) (df : T.Plan) (rows : Nat),
      n.boxes.get? self.runtimePointer = some .runtime →
      n.boxes.get? self.pointer = some (.dataframe df) → E.count df = .ok rows → rows < 2 ^ 63 →
      ((self.count E).exec n).1 = .ok (rows : Int)) := by
  constructor
  · intro body n hnul n₁ out
    have hout : out = (channelEnd (body.exec n).1, n₁.settled (channelReads (body.exec n).1)) := by
      refine exec_channel rfl fun f hf => ?_
      cases f with
      | err e => exact hnul e hf
      | panic msg => exact nul_notMem_panic msg
    rw [hout]
    refine ⟨fun v h => ?_, fun e h => ?_, fun msg h => ?_, n₁.nextResult, _, Nat.succ_ne_zero _, ?_,
      ?_, rfl⟩
    · rw [h, channelEnd]
    · rw [h]; rfl
    · rw [h]; rfl
    · exact Store.not_live_alloc n₁.results (.ok 0)
    · have hdead := Store.get?_free_self (n₁.results.alloc (.ok 0)).2 n₁.nextResult
      simpa [Store.Live, Native.settled, Store.free, Store.alloc, Native.nextResult] using hdead
  · intro self n df rows hrt hdf hcount hrows
    rw [DataFusionDataFrameImpl.exec_count hrt hdf hcount, address_of_lt hrows]

/-- Three outcomes of one body, and the count on its live frame. -/
theorem result_channel_faithful_count :
    let counting (o : Outcome Nat) : Engine planTypes := { planEngine with count := fun _ => o }
    let body (o : Outcome Nat) := (Downcall.dataframeCount 1 2).body (counting o) .empty
    let channel (o : Outcome Nat) :=
      (downcall (ffiResult (body o)) >>= unwrapOrThrow (counting o)).exec countable
    (channel (.ok 7)).1 = .ok 7 ∧
    (channel (.error (.err "No space left on device".toList))).1 =
      .error (.thrown (.dataFusionException (encodeUtf16 "No space left on device".toList))) ∧
    (channel (.error (.panic "index out of bounds"))).1 =
      .error (.thrown (.dataFusionException (encodeUtf16 "internal panic".toList))) ∧
    (∃ r reads, (channel (.error (.err "No space left on device".toList))).2.ledger =
      .new r :: List.replicate reads (.read r) ++ [.free r]) ∧
    (((DataFusionDataFrameImpl.new 2 1).count (counting (.ok 7))).exec countable).1 = .ok 7 := by
  intro counting body channel
  have hvalue := (result_channel_faithful (counting (.ok 7))).1 (body (.ok 7)) countable
    (by rintro _ ⟨⟩)
  have herror := (result_channel_faithful
    (counting (.error (.err "No space left on device".toList)))).1
    (body (.error (.err "No space left on device".toList))) countable (by
      rintro _ ⟨⟩
      decide)
  have hpanic := (result_channel_faithful (counting (.error (.panic "index out of bounds")))).1
    (body (.error (.panic "index out of bounds"))) countable (by rintro _ ⟨⟩)
  have hcount := (result_channel_faithful (counting (.ok 7))).2 (.new 2 1) countable
    (.query "SELECT 1".toList) 7 rfl rfl rfl (by decide)
  obtain ⟨-, hthrown, -, r, reads, -, -, -, hledger⟩ := herror
  exact ⟨hvalue.1 7 rfl, hthrown _ rfl, hpanic.2.2.1 _ rfl, ⟨r, reads, hledger⟩, hcount⟩

end DataFusionPanama
