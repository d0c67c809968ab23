import DataFusionPanama.Native.Result
import DataFusionPanama.SortExpr

/-!
# DataFusionPanama.Native.Ffi

The exported functions of `runtime.rs`, `session.rs` and `dataframe.rs`.
Each function that can fail is `ffi_result!({ body })`; the definitions
under the source's names are the bodies, and `Downcall.invoke` wraps them.

The twenty frame functions share one shape: null checks, dereferences,
string arguments, one engine operation on a clone, one box.  `unaryFrame`
and `binaryFrame` are that shape; a function adds its own checks and its
own operation, so that the order of everything observable is the source's.

`body_cases` is the one fact the ledger proofs need about all of them: a
body that succeeds boxes exactly the object it announces, as its last act,
and a body that fails boxes nothing.
-/

namespace DataFusionPanama

variable {T : Types}

/-! ## reading the caller's memory -/

/-- `CStr::from_ptr(p).to_str()?` -/
def cStr (E : Engine T) (mem : Mem) (p : Addr) : Outcome Text :=
  match mem.get? p with
  | some (.bytes bs) =>
      -- a segment without a NUL would be read past its end
      if (0 : UInt8) ∈ bs then
        match fromUtf8 (cStrBytes bs) with
        | some s => pure s
        | none => throw (.err (E.utf8Error (cStrBytes bs)))
      else E.danglingString
  | _ => E.danglingString

/-- `std::slice::from_raw_parts(ptrs, len)` -/
def fromRawParts (E : Engine T) (mem : Mem) (ptrs : Addr) (len : Nat) : Outcome (List Addr) :=
  if len = 0 then pure []
  else match mem.get? ptrs with
    | some (.pointers ps) => if len ≤ ps.length then pure (ps.take len) else E.danglingPointers
    | _ => E.danglingPointers

/-- Extract a `Vec<&str>` from a C string pointer array. -/
def parseCStrArray (E : Engine T) (mem : Mem) (ptrs : Addr) (len : Nat) : Outcome (List Text) := do
  let slice ← fromRawParts E mem ptrs len
  slice.mapM fun p => do
    assertNotNull p "string array element must not be null"
    cStr E mem p

/-- Parse SQL expression strings against a DataFrame's schema. -/
def parseSqlExprs (E : Engine T) (df : T.Plan) (sqlStrs : List Text) : Outcome (List T.Expr) :=
  sqlStrs.mapM (E.parseSqlExpr df)

/-! ## dereferencing handles -/

/-- What is behind a runtime pointer. -/
def runtimeAt (E : Engine T) (boxes : Store (Obj T)) (runtime : Addr) : Outcome Unit :=
  match boxes.get? runtime with
  | some .runtime => pure ()
  | _ => E.danglingRuntime

/-- What is behind a session pointer. -/
def contextAt (E : Engine T) (boxes : Store (Obj T)) (session : Addr) : Outcome T.Ctx :=
  match boxes.get? session with
  | some (.session context) => pure context
  | _ => E.danglingContext

/-- What is behind a dataframe pointer. -/
def planAt (E : Engine T) (boxes : Store (Obj T)) (dataframe : Addr) : Outcome T.Plan :=
  match boxes.get? dataframe with
  | some (.dataframe df) => pure df
  | _ => E.danglingFrame

/-- `&*runtime` -/
def derefRuntime (E : Engine T) (runtime : Addr) : FfiM T Unit :=
  .reads fun n => runtimeAt E n.boxes runtime

/-- `&*session` -/
def derefSession (E : Engine T) (session : Addr) : FfiM T T.Ctx :=
  .reads fun n => contextAt E n.boxes session

/-- `&*dataframe` -/
def derefFrame (E : Engine T) (dataframe : Addr) : FfiM T T.Plan :=
  .reads fun n => planAt E n.boxes dataframe

/-- An outcome that does not depend on the state. -/
def lift {α : Type} (o : Outcome α) : FfiM T α := .reads fun _ => o

/-- `Box::into_raw(Box::new(o))` -/
def intoRaw (o : Obj T) : FfiM T Addr := .updates fun n => (n.next, n.box o)

/-- Change the context of a session; a dangling one has none to change. -/
def setContext (session : Addr) (context : T.Ctx) : FfiM T Unit :=
  .updates fun n => match n.boxes.get? session with
    | some (.session _) => ((), { n with boxes := n.boxes.put session (.session context) })
    | _ => ((), n)

/-- An engine call that may change the session it runs in. -/
def inSession {α : Type} (session : Addr) (o : Outcome α × T.Ctx) : FfiM T α := do
  setContext session o.2
  lift o.1

/-- `ptr::write(stream_out as *mut FFI_ArrowArrayStream, stream)` -/
def writeStream (streamOut : Addr) (stream : Stream T) : FfiM T Unit :=
  .updates fun n => ((), n.populate streamOut stream)

/-! ## runtime.rs -/

def runtimeNew (E : Engine T) : FfiM T Addr := do
  lift E.runtimeNew
  intoRaw .runtime

/-- Frees a `DFRuntime`; null is allowed. -/
def runtimeFree (runtime : Addr) (n : Native T) : Native T :=
  if runtime = 0 then n else n.unbox .runtime runtime

/-! ## session.rs -/

def sessionNew (E : Engine T) (runtime : Addr) : FfiM T Addr := do
  lift (assertNotNull runtime "runtime pointer must not be null")
  derefRuntime E runtime
  let context ← lift E.contextNew
  intoRaw (.session context)

/-- Frees a `DFSession`; null is allowed. -/
def sessionFree (session : Addr) (n : Native T) : Native T :=
  if session = 0 then n else n.unbox .session session

def sessionSql (E : Engine T) (mem : Mem) (runtime session sql : Addr) : FfiM T Addr := do
  lift (assertNotNull runtime "runtime pointer must not be null")
  lift (assertNotNull session "session pointer must not be null")
  lift (assertNotNull sql "sql pointer must not be null")
  derefRuntime E runtime
  let sess ← derefSession E session
  let sqlStr ← lift (cStr E mem sql)
  let df ← inSession session (E.sql sess sqlStr)
  intoRaw (.dataframe df)

/-- The two registration functions differ in the engine call only. -/
def registerTable (E : Engine T) (mem : Mem)
    (register : T.Ctx → Text → Text → Outcome Unit × T.Ctx)
    (runtime session tableName path : Addr) : FfiM T Addr := do
  lift (assertNotNull runtime "runtime pointer must not be null")
  lift (assertNotNull session "session pointer must not be null")
  lift (assertNotNull tableName "table_name pointer must not be null")
  lift (assertNotNull path "path pointer must not be null")
  derefRuntime E runtime
  let sess ← derefSession E session
  let nameStr ← lift (cStr E mem tableName)
  let pathStr ← lift (cStr E mem path)
  inSession session (register sess nameStr pathStr)
  pure 0

def sessionRegisterCsv (E : Engine T) (mem : Mem) (runtime session tableName path : Addr) :
    FfiM T Addr :=
  registerTable E mem E.registerCsv runtime session tableName path

def sessionRegisterParquet (E : Engine T) (mem : Mem) (runtime session tableName path : Addr) :
    FfiM T Addr :=
  registerTable E mem E.registerParquet runtime session tableName path

/-! ## dataframe.rs -/

/-- Frees a `DFDataFrame`; null is allowed. -/
def dataframeFree (dataframe : Addr) (n : Native T) : Native T :=
  if dataframe = 0 then n else n.unbox .dataframe dataframe

/-- Collects a DataFrame and writes the exported stream to `stream_out`. -/
def dataframeCollect (E : Engine T) (runtime dataframe streamOut : Addr) : FfiM T Addr := do
  lift (assertNotNull runtime "runtime pointer must not be null")
  lift (assertNotNull dataframe "dataframe pointer must not be null")
  lift (assertNotNull streamOut "stream_out pointer must not be null")
  derefRuntime E runtime
  let df ← derefFrame E dataframe
  let batches ← lift (E.collect df)
  writeStream streamOut ⟨E.schema df, batches⟩
  pure 0

/-- Returns the number of rows, cast to a pointer. -/
def dataframeCount (E : Engine T) (runtime dataframe : Addr) : FfiM T Addr := do
  lift (assertNotNull runtime "runtime pointer must not be null")
  lift (assertNotNull dataframe "dataframe pointer must not be null")
  derefRuntime E runtime
  let df ← derefFrame E dataframe
  lift (E.count df)

/-- The shape of a function from one frame to a new one. -/
def unaryFrame (E : Engine T) (checks : Outcome Unit) (op : T.Plan → Outcome T.Plan)
    (runtime dataframe : Addr) : FfiM T Addr := do
  lift (assertNotNull runtime "runtime pointer must not be null")
  lift (assertNotNull dataframe "dataframe pointer must not be null")
  lift checks
  derefRuntime E runtime
  let df ← derefFrame E dataframe
  let resultDf ← lift (op df)
  intoRaw (.dataframe resultDf)

/-- The shape of a function from two frames to a new one. -/
def binaryFrame (E : Engine T) (checks : Outcome Unit)
    (op : T.Plan → T.Plan → Outcome T.Plan) (runtime left right : Addr) : FfiM T Addr := do
  lift (assertNotNull runtime "runtime pointer must not be null")
  lift (assertNotNull left "left pointer must not be null")
  lift (assertNotNull right "right pointer must not be null")
  lift checks
  derefRuntime E runtime
  let leftDf ← derefFrame E left
  let rightDf ← derefFrame E right
  let resultDf ← lift (op leftDf rightDf)
  intoRaw (.dataframe resultDf)

section Frames

variable (E : Engine T) (mem : Mem)

def dataframeFilter (runtime dataframe expr : Addr) : FfiM T Addr :=
  unaryFrame E (assertNotNull expr "expr pointer must not be null") (fun df => do
    let exprStr ← cStr E mem expr
    let parsed ← E.parseSqlExpr df exprStr
    E.filter df parsed) runtime dataframe

def dataframeSelect (runtime dataframe exprs : Addr) (len : Nat) : FfiM T Addr :=
  unaryFrame E (assertNotNull exprs "exprs pointer must not be null") (fun df => do
    let sqlStrs ← parseCStrArray E mem exprs len
    let parsed ← parseSqlExprs E df sqlStrs
    E.select df parsed) runtime dataframe

/-- A `fetch` value less than 0 means no fetch limit. -/
def dataframeLimit (runtime dataframe : Addr) (skip fetch : Int) : FfiM T Addr :=
  unaryFrame E (assert (0 ≤ skip) "skip must not be negative") (fun df =>
    let fetchOpt := if fetch < 0 then none else some fetch.toNat
    E.limit df skip.toNat fetchOpt) runtime dataframe

def dataframeSort (runtime dataframe exprs : Addr) (len : Nat) : FfiM T Addr :=
  unaryFrame E (assertNotNull exprs "exprs pointer must not be null") (fun df => do
    let sqlStrs ← parseCStrArray E mem exprs len
    let sortExprs ← sqlStrs.mapM (parseSortExpr (E.parseSqlExpr df))
    E.sort df sortExprs) runtime dataframe

def dataframeDistinct (runtime dataframe : Addr) : FfiM T Addr :=
  unaryFrame E (pure ()) E.distinct runtime dataframe

def dataframeAggregate (runtime dataframe groupExprs : Addr) (groupLen : Nat) (aggrExprs : Addr)
    (aggrLen : Nat) : FfiM T Addr :=
  unaryFrame E (do
      assertNotNull groupExprs "group_exprs pointer must not be null"
      assertNotNull aggrExprs "aggr_exprs pointer must not be null") (fun df => do
    let groupStrs ← parseCStrArray E mem groupExprs groupLen
    let aggrStrs ← parseCStrArray E mem aggrExprs aggrLen
    let groups ← parseSqlExprs E df groupStrs
    let aggrs ← parseSqlExprs E df aggrStrs
    E.aggregate df groups aggrs) runtime dataframe

def dataframeSelectColumns (runtime dataframe cols : Addr) (len : Nat) : FfiM T Addr :=
  unaryFrame E (assertNotNull cols "cols pointer must not be null") (fun df => do
    let colStrs ← parseCStrArray E mem cols len
    E.selectColumns df colStrs) runtime dataframe

def dataframeDropColumns (runtime dataframe cols : Addr) (len : Nat) : FfiM T Addr :=
  unaryFrame E (assertNotNull cols "cols pointer must not be null") (fun df => do
    let colStrs ← parseCStrArray E mem cols len
    E.dropColumns df colStrs) runtime dataframe

def dataframeWithColumn (runtime dataframe name expr : Addr) : FfiM T Addr :=
  unaryFrame E (do
      assertNotNull name "name pointer must not be null"
      assertNotNull expr "expr pointer must not be null") (fun df => do
    let nameStr ← cStr E mem name
    let exprStr ← cStr E mem expr
    let parsed ← E.parseSqlExpr df exprStr
    E.withColumn df nameStr parsed) runtime dataframe

def dataframeWithColumnRenamed (runtime dataframe oldName newName : Addr) : FfiM T Addr :=
  unaryFrame E (do
      assertNotNull oldName "old_name pointer must not be null"
      assertNotNull newName "new_name pointer must not be null") (fun df => do
    let oldStr ← cStr E mem oldName
    let newStr ← cStr E mem newName
    E.withColumnRenamed df oldStr newStr) runtime dataframe

def dataframeExplain (runtime dataframe : Addr) (verbose analyze : Bool) : FfiM T Addr :=
  unaryFrame E (pure ()) (fun df => E.explain df verbose analyze) runtime dataframe

def dataframeJoin (runtime left right : Addr) (joinType : Int) (leftCols : Addr) (leftLen : Nat)
    (rightCols : Addr) (rightLen : Nat) : FfiM T Addr :=
  binaryFrame E (do
      assertNotNull leftCols "left_cols pointer must not be null"
      assertNotNull rightCols "right_cols pointer must not be null") (fun leftDf rightDf => do
    let jt ← joinTypeFromInt joinType
    let lCols ← parseCStrArray E mem leftCols leftLen
    let rCols ← parseCStrArray E mem rightCols rightLen
    E.join leftDf rightDf jt lCols rCols) runtime left right

def dataframeUnion (runtime left right : Addr) : FfiM T Addr :=
  binaryFrame E (pure ()) E.union runtime left right

def dataframeUnionDistinct (runtime left right : Addr) : FfiM T Addr :=
  binaryFrame E (pure ()) E.unionDistinct runtime left right

def dataframeExcept (runtime left right : Addr) : FfiM T Addr :=
  binaryFrame E (pure ()) E.except runtime left right

def dataframeIntersect (runtime left right : Addr) : FfiM T Addr :=
  binaryFrame E (pure ()) E.intersect runtime left right

end Frames

/-! ## dispatch -/

def UnaryOp.body (E : Engine T) (mem : Mem) (runtime dataframe : Addr) :
    UnaryOp Addr StrArray → FfiM T Addr
  | .filter expr => dataframeFilter E mem runtime dataframe expr
  | .select (exprs, len) => dataframeSelect E mem runtime dataframe exprs len
  | .limit skip fetch => dataframeLimit E runtime dataframe skip fetch
  | .sort (exprs, len) => dataframeSort E mem runtime dataframe exprs len
  | .distinct => dataframeDistinct E runtime dataframe
  | .aggregate (group, groupLen) (aggr, aggrLen) =>
      dataframeAggregate E mem runtime dataframe group groupLen aggr aggrLen
  | .selectColumns (cols, len) => dataframeSelectColumns E mem runtime dataframe cols len
  | .dropColumns (cols, len) => dataframeDropColumns E mem runtime dataframe cols len
  | .withColumn name expr => dataframeWithColumn E mem runtime dataframe name expr
  | .withColumnRenamed old new => dataframeWithColumnRenamed E mem runtime dataframe old new
  | .explain verbose analyze => dataframeExplain E runtime dataframe verbose analyze

def BinaryOp.body (E : Engine T) (mem : Mem) (runtime left right : Addr) :
    BinaryOp Int StrArray → FfiM T Addr
  | .join joinType (lCols, lLen) (rCols, rLen) =>
      dataframeJoin E mem runtime left right joinType lCols lLen rCols rLen
  | .union => dataframeUnion E runtime left right
  | .unionDistinct => dataframeUnionDistinct E runtime left right
  | .except => dataframeExcept E runtime left right
  | .intersect => dataframeIntersect E runtime left right

namespace Downcall

/-- The block inside `ffi_result!`. -/
def body (E : Engine T) (mem : Mem) : Downcall → FfiM T Addr
  | .runtimeNew => DataFusionPanama.runtimeNew E
  | .sessionNew rt => DataFusionPanama.sessionNew E rt
  | .sessionSql rt sess sql => DataFusionPanama.sessionSql E mem rt sess sql
  | .sessionRegisterCsv rt sess name path =>
      DataFusionPanama.sessionRegisterCsv E mem rt sess name path
  | .sessionRegisterParquet rt sess name path =>
      DataFusionPanama.sessionRegisterParquet E mem rt sess name path
  | .dataframeCollect rt df out => DataFusionPanama.dataframeCollect E rt df out
  | .dataframeCount rt df => DataFusionPanama.dataframeCount E rt df
  | .unary op rt df => op.body E mem rt df
  | .binary op rt left right => op.body E mem rt left right

/-- The exported function. -/
def invoke (E : Engine T) (mem : Mem) (c : Downcall) : Native T → CallEnd × Native T :=
  ffiResult (c.body E mem)

end Downcall

/-! ## what the bodies do to the objects -/

section Frame

variable {α β : Type}

/-- A body that neither boxes nor frees. -/
abbrev Quiet (x : FfiM T α) : Prop := Prog.Keeps Native.Same x

/-- A body whose success boxes one object of kind `k`, last of all, and
whose failure boxes nothing. -/
def Boxes (k : Kind) (x : FfiM T Addr) : Prop :=
  ∀ n, ∃ n₁, Native.Same n n₁ ∧
    ((∃ o : Obj T, o.kind = k ∧ x.exec n = (.ok n₁.next, n₁.box o)) ∨
      ∃ e, x.exec n = (.error e, n₁))

/-- A step that only computes. -/
theorem quiet_lift (o : Outcome α) : Quiet (T := T) (lift o) := .reads .refl _

/-- Reading a runtime changes nothing. -/
theorem quiet_derefRuntime (E : Engine T) (p : Addr) : Quiet (derefRuntime E p) := .reads .refl _

theorem quiet_derefSession (E : Engine T) (p : Addr) : Quiet (derefSession E p) := .reads .refl _

theorem quiet_derefFrame (E : Engine T) (p : Addr) : Quiet (derefFrame E p) := .reads .refl _

theorem quiet_pure (a : α) : Quiet (T := T) (pure a) := .pure .refl a

/-- A quiet body, and then another. -/
theorem Quiet.bind {x : FfiM T α} {f : α → FfiM T β} (hx : Quiet x) (hf : ∀ a, Quiet (f a)) :
    Quiet (x >>= f) := Prog.Keeps.bind .trans hx hf

/-- Replacing a session's context leaves it a session. -/
theorem quiet_setContext (session : Addr) (context : T.Ctx) :
    Quiet (setContext session context) := by
  refine .updates fun n => ?_
  split
  · next c hc =>
    refine ⟨fun p => ?_, by simp [Native.next], rfl⟩
    by_cases hp : p = session
    · subst hp
      simp [Native.kind?, Store.get?_put_self hc, hc, Obj.kind]
    · simp [Native.kind?, Store.get?_put_of_ne hp]
  · exact .refl n

/-- An engine call in a session changes its context only. -/
theorem quiet_inSession (session : Addr) (o : Outcome α × T.Ctx) :
    Quiet (inSession session o) :=
  .bind (quiet_setContext session o.2) fun _ => quiet_lift o.1

/-- A stream is no object. -/
theorem quiet_writeStream (streamOut : Addr) (stream : Stream T) :
    Quiet (writeStream streamOut stream) := .updates fun _ => ⟨fun _ => rfl, rfl, rfl⟩

/-- `Box::into_raw`. -/
theorem boxes_intoRaw (o : Obj T) : Boxes o.kind (intoRaw o) := fun n =>
  ⟨n, .refl n, .inl ⟨o, rfl, rfl⟩⟩

/-- What comes before the box is quiet. -/
theorem Boxes.bind {k : Kind} {x : FfiM T α} {f : α → FfiM T Addr} (hx : Quiet x)
    (hf : ∀ a, Boxes k (f a)) : Boxes k (x >>= f) := by
  intro n
  have hs := hx n
  rcases h : x.exec n with ⟨r, n'⟩
  rw [h] at hs
  cases r with
  | error e => exact ⟨n', hs, .inr ⟨e, Prog.exec_bind_error h⟩⟩
  | ok a =>
      obtain ⟨n₁, hn₁, hcase⟩ := hf a n'
      refine ⟨n₁, hs.trans hn₁, ?_⟩
      rw [Prog.exec_bind_ok h]
      exact hcase

variable (E : Engine T) (mem : Mem)

/-- A function of one frame boxes a frame. -/
theorem boxes_unaryFrame (checks : Outcome Unit) (op : T.Plan → Outcome T.Plan)
    (runtime dataframe : Addr) : Boxes .dataframe (unaryFrame E checks op runtime dataframe) := by
  -- the checks
  refine .bind (quiet_lift _) fun _ => .bind (quiet_lift _) fun _ => ?_
  refine .bind (quiet_lift checks) fun _ => ?_
  -- the operation on what is behind the handles
  refine .bind (quiet_derefRuntime E runtime) fun _ => ?_
  refine .bind (quiet_derefFrame E dataframe) fun df => ?_
  refine .bind (quiet_lift (op df)) fun result => ?_
  exact boxes_intoRaw (.dataframe result)

/-- A function of two frames boxes a frame. -/
theorem boxes_binaryFrame (checks : Outcome Unit) (op : T.Plan → T.Plan → Outcome T.Plan)
    (runtime left right : Addr) :
    Boxes .dataframe (binaryFrame E checks op runtime left right) := by
  -- the checks
  refine .bind (quiet_lift _) fun _ => .bind (quiet_lift _) fun _ => ?_
  refine .bind (quiet_lift _) fun _ => ?_
  refine .bind (quiet_lift checks) fun _ => ?_
  -- the operation on what is behind the handles
  refine .bind (quiet_derefRuntime E runtime) fun _ => ?_
  refine .bind (quiet_derefFrame E left) fun leftDf => ?_
  refine .bind (quiet_derefFrame E right) fun rightDf => ?_
  refine .bind (quiet_lift (op leftDf rightDf)) fun result => ?_
  exact boxes_intoRaw (.dataframe result)

/-- So does every function from one frame to a new one. -/
theorem boxes_unaryOp (op : UnaryOp Addr StrArray) (runtime dataframe : Addr) :
    Boxes .dataframe (op.body E mem runtime dataframe) := by
  cases op <;> exact boxes_unaryFrame E _ _ runtime dataframe

/-- So does every function from two frames to a new one. -/
theorem boxes_binaryOp (op : BinaryOp Int StrArray) (runtime left right : Addr) :
    Boxes .dataframe (op.body E mem runtime left right) := by
  cases op <;> exact boxes_binaryFrame E _ _ runtime left right

/-- A query boxes a frame. -/
theorem boxes_sessionSql (runtime session sql : Addr) :
    Boxes .dataframe (sessionSql E mem runtime session sql) := by
  refine .bind (quiet_lift _) fun _ => .bind (quiet_lift _) fun _ => ?_
  refine .bind (quiet_lift _) fun _ => ?_
  refine .bind (quiet_derefRuntime E runtime) fun _ => ?_
  refine .bind (quiet_derefSession E session) fun _ => ?_
  -- the text is decoded before the session is asked
  refine .bind (quiet_lift _) fun _ => ?_
  refine .bind (quiet_inSession session _) fun df => ?_
  exact boxes_intoRaw (.dataframe df)

/-- `session_new` boxes a session. -/
theorem boxes_sessionNew (runtime : Addr) : Boxes .session (sessionNew E runtime) := by
  refine .bind (quiet_lift _) fun _ => ?_
  refine .bind (quiet_derefRuntime E runtime) fun _ => ?_
  refine .bind (quiet_lift _) fun ctx => ?_
  exact boxes_intoRaw (.session ctx)

/-- `runtime_new` boxes a runtime. -/
theorem boxes_runtimeNew : Boxes .runtime (runtimeNew E) :=
  .bind (quiet_lift _) fun _ => boxes_intoRaw .runtime

/-- A registration boxes nothing. -/
theorem quiet_registerTable (register : T.Ctx → Text → Text → Outcome Unit × T.Ctx)
    (runtime session tableName path : Addr) :
    Quiet (registerTable E mem register runtime session tableName path) := by
  -- four pointers are checked
  refine .bind (quiet_lift _) fun _ => .bind (quiet_lift _) fun _ => ?_
  refine .bind (quiet_lift _) fun _ => .bind (quiet_lift _) fun _ => ?_
  refine .bind (quiet_derefRuntime E runtime) fun _ => ?_
  refine .bind (quiet_derefSession E session) fun _ => ?_
  -- name and path are decoded before the session is asked
  refine .bind (quiet_lift _) fun _ => .bind (quiet_lift _) fun _ => ?_
  refine .bind (quiet_inSession session _) fun _ => ?_
  exact quiet_pure 0

/-- A collect fills a struct and boxes nothing. -/
theorem quiet_dataframeCollect (runtime dataframe streamOut : Addr) :
    Quiet (dataframeCollect E runtime dataframe streamOut) := by
  refine .bind (quiet_lift _) fun _ => .bind (quiet_lift _) fun _ => ?_
  refine .bind (quiet_lift _) fun _ => ?_
  refine .bind (quiet_derefRuntime E runtime) fun _ => ?_
  refine .bind (quiet_derefFrame E dataframe) fun df => ?_
  refine .bind (quiet_lift (E.collect df)) fun batches => ?_
  refine .bind (quiet_writeStream streamOut _) fun _ => ?_
  exact quiet_pure 0

/-- A count boxes nothing. -/
theorem quiet_dataframeCount (runtime dataframe : Addr) :
    Quiet (dataframeCount E runtime dataframe) := by
  refine .bind (quiet_lift _) fun _ => .bind (quiet_lift _) fun _ => ?_
  refine .bind (quiet_derefRuntime E runtime) fun _ => ?_
  refine .bind (quiet_derefFrame E dataframe) fun df => ?_
  exact quiet_lift (E.count df)

/-- **A body boxes exactly what it announces**: a creating function one
object, on success only; any other function nothing. -/
theorem body_cases (c : Downcall) :
    match c.creates with
    | some k => Boxes k (c.body E mem)
    | none => Quiet (c.body E mem) := by
  cases c with
  | runtimeNew => exact boxes_runtimeNew E
  | sessionNew rt => exact boxes_sessionNew E rt
  | sessionSql rt sess sql => exact boxes_sessionSql E mem rt sess sql
  | sessionRegisterCsv rt sess name path =>
      exact quiet_registerTable E mem E.registerCsv rt sess name path
  | sessionRegisterParquet rt sess name path =>
      exact quiet_registerTable E mem E.registerParquet rt sess name path
  | dataframeCollect rt df out => exact quiet_dataframeCollect E rt df out
  | dataframeCount rt df => exact quiet_dataframeCount E rt df
  | unary op rt df => exact boxes_unaryOp E mem op rt df
  | binary op rt left right => exact boxes_binaryOp E mem op rt left right

end Frame

end DataFusionPanama
