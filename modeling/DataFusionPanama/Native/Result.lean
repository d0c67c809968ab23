import DataFusionPanama.Native.State

/-!
# DataFusionPanama.Native.Result

The result channel of `result.rs`: `DFResult`, the `ffi_result!` macro and
the four functions the caller inspects a result with.

`ffi_result!` catches panics of the body.  The `DFResult` itself is built
outside `catch_unwind`, and for an `Err` it is built from the error's text
through `CString::new(..).expect(..)`; a panic there leaves the `extern "C"`
function, which aborts the process (`CallEnd.aborted`).
-/

namespace DataFusionPanama

variable {T : Types}

namespace DFResult

def ok (value : Addr) : DFResult := ⟨value, none⟩

/-- Panics when the message contains a NUL. -/
def err (message : Text) : Outcome DFResult :=
  match CString.new (utf8 message) with
  | some s => pure ⟨0, some s⟩
  | none => throw (.panic "error message contained null byte")

def isOk (r : DFResult) : Bool := r.error.isNone

def unwrapValue (r : DFResult) : Addr := r.value

end DFResult

/-- How a call of an exported function ends: with a `*mut DFResult`, or with
a panic that no `catch_unwind` holds, which aborts the process. -/
inductive CallEnd where
  | returned (result : Addr)
  | aborted
  deriving DecidableEq, Repr

/-- The `DFResult` of a body's outcome. -/
def dfResult : Outcome Addr → Outcome DFResult
  | .ok ptr => pure (.ok ptr)
  | .error (.err e) => DFResult.err e
  | .error (.panic _) => DFResult.err "internal panic".toList

/-- `ffi_result!` -/
def ffiResult (body : FfiM T Addr) (n : Native T) : CallEnd × Native T :=
  let (outcome, n) := body.exec n
  match dfResult outcome with
  | .ok r =>
      let (ptr, results) := n.results.alloc r
      (.returned ptr, { n with results := results }.enter (.new ptr))
  | .error _ => (.aborted, n)

/-! ## FFI functions -/

/-- `*const c_char`: null, or the message inside a boxed `DFResult`. -/
inductive MsgPtr where
  | null
  | messageOf (result : Addr)
  deriving DecidableEq, Repr

/-- `&*result` -/
def derefResult (E : Engine T) (n : Native T) (result : Addr) : DFResult :=
  match n.results.get? result with
  | some r => r
  | none => ⟨E.danglingResult.1, E.danglingResult.2⟩

def resultIsOk (E : Engine T) (result : Addr) (n : Native T) : Bool × Native T :=
  ((derefResult E n result).isOk, n.enter (.read result))

def resultUnwrap (E : Engine T) (result : Addr) (n : Native T) : Addr × Native T :=
  ((derefResult E n result).unwrapValue, n.enter (.read result))

def resultErrorMessage (E : Engine T) (result : Addr) (n : Native T) : MsgPtr × Native T :=
  (match (derefResult E n result).error with
    | some _ => .messageOf result
    | none => .null, n.enter (.read result))

/-- Null is allowed; anything else is dropped. -/
def resultFree (result : Addr) (n : Native T) : Native T :=
  if result = 0 then n
  else { n with results := n.results.free result }.enter (.free result)

/-! ## building a result -/

/-- An error text without NUL is boxed as it is. -/
theorem err_eq_ok {e : Text} (h : nul ∉ e) :
    ∃ s : CString, s.bytes = utf8 e ∧ DFResult.err e = .ok ⟨0, some s⟩ := by
  have h0 : (0 : UInt8) ∉ utf8 e := fun hm => h (zero_mem_utf8_iff.mp hm)
  exact ⟨⟨utf8 e, h0⟩, rfl, by rw [DFResult.err, CString.new, dif_neg h0]; rfl⟩

/-- An error text with a NUL panics. -/
theorem err_eq_error {e : Text} (h : nul ∈ e) :
    DFResult.err e = .error (.panic "error message contained null byte") := by
  rw [DFResult.err, CString.new, dif_pos (zero_mem_utf8_iff.mpr h)]
  rfl

/-- The text a fault is reported with. -/
def Fault.text : Fault → Text
  | .err e => e
  | .panic _ => "internal panic".toList

/-- A fault is reported with its text, whether an `Err` or a panic. -/
theorem dfResult_error (f : Fault) : dfResult (.error f) = DFResult.err f.text := by
  cases f <;> rfl

/-- A panic is always reportable. -/
theorem nul_notMem_panic (msg : String) : nul ∉ (Fault.panic msg).text := by
  show nul ∉ "internal panic".toList
  decide

/-- A fault whose text has no NUL is reported with that text. -/
theorem dfResult_error_eq_ok {f : Fault} (h : nul ∉ f.text) :
    ∃ s : CString, s.bytes = utf8 f.text ∧ dfResult (.error f) = .ok ⟨0, some s⟩ := by
  rw [dfResult_error]
  exact err_eq_ok h

/-- A text with a NUL makes the report itself panic. -/
theorem dfResult_error_eq_error {f : Fault} (h : nul ∈ f.text) :
    dfResult (.error f) = .error (.panic "error message contained null byte") := by
  rw [dfResult_error]
  exact err_eq_error h

/-- What a reportable call returns: a fresh boxed result. -/
theorem ffiResult_returned {body : FfiM T Addr} {n n' : Native T} {o : Outcome Addr} {r : DFResult}
    (hb : body.exec n = (o, n')) (hr : dfResult o = .ok r) :
    ffiResult body n = (.returned (n'.results.alloc r).1,
      { n' with results := (n'.results.alloc r).2 }.enter (.new (n'.results.alloc r).1)) := by
  rw [ffiResult, hb]
  simp only [hr]

/-- A report that panics takes the process down. -/
theorem ffiResult_aborted {body : FfiM T Addr} {n n' : Native T} {o : Outcome Addr} {e : Fault}
    (hb : body.exec n = (o, n')) (hr : dfResult o = .error e) :
    ffiResult body n = (.aborted, n') := by
  rw [ffiResult, hb]
  simp only [hr]

end DataFusionPanama
