import DataFusionPanama.Base.Foreign
import DataFusionPanama.Native.Ffi

/-!
# DataFusionPanama.Exports

How a method handle finds its function.  The Java classes look the exported
functions up by name, describe their parameters in `FunctionDescriptor`s and
pass the arguments in the order they take them to have; the Rust side
declares the same functions once more.  Nothing but the text of the two
sides makes them agree: a name, a width or an order that differs would be
found out by no compiler.

`methodHandle` and `arguments` are the Java side, `externs` is the Rust
side.
-/

namespace DataFusionPanama

/-- A call through one of the method handles. -/
inductive ForeignCall where
  | add (a b : Int)
  | resultIsOk (result : Addr)
  | resultUnwrap (result : Addr)
  | resultErrorMessage (result : Addr)
  | resultFree (result : Addr)
  | runtimeFree (runtime : Addr)
  | sessionFree (session : Addr)
  | dataframeFree (dataframe : Addr)
  /-- A call that returns a `DFResult`. -/
  | downcall (c : Downcall)
  deriving DecidableEq, Repr

/-! ## the Java side -/

structure MethodHandle where
  name : String
  descriptor : FunctionDescriptor

/-- `NativeLibrary.downcallHandle`. -/
def downcallHandle (name : String) (descriptor : FunctionDescriptor) : MethodHandle :=
  ⟨name, descriptor⟩

namespace FunctionDescriptor

def of (result : ValueLayout) (arguments : List ValueLayout) : FunctionDescriptor :=
  ⟨some result, arguments⟩

def ofVoid (arguments : List ValueLayout) : FunctionDescriptor := ⟨none, arguments⟩

end FunctionDescriptor

open FunctionDescriptor ValueLayout in
/-- The handle of a frame method with one operand. -/
def UnaryOp.methodHandle {Str Strs : Type} : UnaryOp Str Strs → MethodHandle
  | .filter _ => downcallHandle "dataframe_filter" (of address [address, address, address])
  | .select _ =>
      downcallHandle "dataframe_select" (of address [address, address, address, javaLong])
  | .limit _ _ => downcallHandle "dataframe_limit" (of address [address, address, javaInt, javaInt])
  | .sort _ => downcallHandle "dataframe_sort" (of address [address, address, address, javaLong])
  | .distinct => downcallHandle "dataframe_distinct" (of address [address, address])
  | .aggregate _ _ => downcallHandle "dataframe_aggregate"
      (of address [address, address, address, javaLong, address, javaLong])
  | .selectColumns _ =>
      downcallHandle "dataframe_select_columns" (of address [address, address, address, javaLong])
  | .dropColumns _ =>
      downcallHandle "dataframe_drop_columns" (of address [address, address, address, javaLong])
  | .withColumn _ _ =>
      downcallHandle "dataframe_with_column" (of address [address, address, address, address])
  | .withColumnRenamed _ _ => downcallHandle "dataframe_with_column_renamed"
      (of address [address, address, address, address])
  | .explain _ _ =>
      downcallHandle "dataframe_explain" (of address [address, address, javaBoolean, javaBoolean])

open FunctionDescriptor ValueLayout in
/-- The handle of a frame method with two operands. -/
def BinaryOp.methodHandle {Join Strs : Type} : BinaryOp Join Strs → MethodHandle
  | .join _ _ _ => downcallHandle "dataframe_join"
      (of address [address, address, address, javaInt, address, javaLong, address, javaLong])
  | .union => downcallHandle "dataframe_union" (of address [address, address, address])
  | .unionDistinct =>
      downcallHandle "dataframe_union_distinct" (of address [address, address, address])
  | .except => downcallHandle "dataframe_except" (of address [address, address, address])
  | .intersect => downcallHandle "dataframe_intersect" (of address [address, address, address])

open FunctionDescriptor ValueLayout in
def Downcall.methodHandle : Downcall → MethodHandle
  | .runtimeNew => downcallHandle "runtime_new" (of address [])
  | .sessionNew _ => downcallHandle "session_new" (of address [address])
  | .sessionSql .. => downcallHandle "session_sql" (of address [address, address, address])
  | .sessionRegisterCsv .. =>
      downcallHandle "session_register_csv" (of address [address, address, address, address])
  | .sessionRegisterParquet .. =>
      downcallHandle "session_register_parquet" (of address [address, address, address, address])
  | .dataframeCollect .. =>
      downcallHandle "dataframe_collect" (of address [address, address, address])
  | .dataframeCount .. => downcallHandle "dataframe_count" (of address [address, address])
  | .unary op _ _ => op.methodHandle
  | .binary op _ _ _ => op.methodHandle

namespace ForeignCall

open FunctionDescriptor ValueLayout in
def methodHandle : ForeignCall → MethodHandle
  | .add _ _ => downcallHandle "add" (of javaInt [javaInt, javaInt])
  | .resultIsOk _ => downcallHandle "result_is_ok" (of javaBoolean [address])
  | .resultUnwrap _ => downcallHandle "result_unwrap" (of address [address])
  | .resultErrorMessage _ => downcallHandle "result_error_message" (of address [address])
  | .resultFree _ => downcallHandle "result_free" (ofVoid [address])
  | .runtimeFree _ => downcallHandle "runtime_free" (ofVoid [address])
  | .sessionFree _ => downcallHandle "session_free" (ofVoid [address])
  | .dataframeFree _ => downcallHandle "dataframe_free" (ofVoid [address])
  | .downcall c => c.methodHandle

end ForeignCall

/-- The arguments of a frame method with one operand, after its pointers. -/
def UnaryOp.arguments : UnaryOp Addr StrArray → List Value
  | .filter expr => [.address expr]
  | .select exprs | .sort exprs => [.address exprs.1, .long exprs.2]
  | .limit skip fetch => [.int skip, .int fetch]
  | .distinct => []
  | .aggregate groupExprs aggrExprs =>
      [.address groupExprs.1, .long groupExprs.2, .address aggrExprs.1, .long aggrExprs.2]
  | .selectColumns cols | .dropColumns cols => [.address cols.1, .long cols.2]
  | .withColumn name expr => [.address name, .address expr]
  | .withColumnRenamed oldName newName => [.address oldName, .address newName]
  | .explain verbose analyze => [.boolean verbose, .boolean analyze]

def BinaryOp.arguments : BinaryOp Int StrArray → List Value
  | .join joinType leftCols rightCols =>
      [.int joinType, .address leftCols.1, .long leftCols.2, .address rightCols.1,
        .long rightCols.2]
  | .union | .unionDistinct | .except | .intersect => []

/-- The arguments of an `invokeExact`. -/
def Downcall.arguments : Downcall → List Value
  | .runtimeNew => []
  | .sessionNew runtime => [.address runtime]
  | .sessionSql runtime session sql => [.address runtime, .address session, .address sql]
  | .sessionRegisterCsv runtime session tableName path
  | .sessionRegisterParquet runtime session tableName path =>
      [.address runtime, .address session, .address tableName, .address path]
  | .dataframeCollect runtime dataframe streamOut =>
      [.address runtime, .address dataframe, .address streamOut]
  | .dataframeCount runtime dataframe => [.address runtime, .address dataframe]
  | .unary op runtime dataframe => .address runtime :: .address dataframe :: op.arguments
  | .binary op runtime left right =>
      .address runtime :: .address left :: .address right :: op.arguments

def ForeignCall.arguments : ForeignCall → List Value
  | .add a b => [.int a, .int b]
  | .resultIsOk p | .resultUnwrap p | .resultErrorMessage p | .resultFree p
  | .runtimeFree p | .sessionFree p | .dataframeFree p => [.address p]
  | .downcall c => c.arguments

/-! ## the Rust side -/

/-- An `extern "C" fn`: its name, its parameters, its result, and the call
its parameters make. -/
structure ExternC where
  name : String
  parameters : List CType
  /-- `none` is no result. -/
  result : Option CType
  call : Curried ForeignCall parameters

/-- A frame method with one operand, after its pointers. -/
def ExternC.unary (name : String) (parameters : List CType)
    (call : Addr → Addr → Curried ForeignCall parameters) : ExternC :=
  ⟨name, .pointer :: .pointer :: parameters, some .pointer, call⟩

/-- A method on two frames. -/
def ExternC.binary (name : String) (op : BinaryOp Int StrArray) : ExternC :=
  ⟨name, [.pointer, .pointer, .pointer], some .pointer,
    fun runtime left right => .downcall (.binary op runtime left right)⟩

open CType in
/-- The functions the library exports. -/
def externs : List ExternC :=
  [⟨"add", [cInt, cInt], some cInt, fun a b => .add a b⟩,
    ⟨"result_is_ok", [pointer], some bool, fun result => .resultIsOk result⟩,
    ⟨"result_unwrap", [pointer], some pointer, fun result => .resultUnwrap result⟩,
    ⟨"result_error_message", [pointer], some pointer, fun result => .resultErrorMessage result⟩,
    ⟨"result_free", [pointer], none, fun result => .resultFree result⟩,
    ⟨"runtime_new", [], some pointer, .downcall .runtimeNew⟩,
    ⟨"runtime_free", [pointer], none, fun runtime => .runtimeFree runtime⟩,
    ⟨"session_new", [pointer], some pointer, fun runtime => .downcall (.sessionNew runtime)⟩,
    ⟨"session_free", [pointer], none, fun session => .sessionFree session⟩,
    ⟨"session_sql", [pointer, pointer, pointer], some pointer,
      fun runtime session sql => .downcall (.sessionSql runtime session sql)⟩,
    ⟨"session_register_csv", [pointer, pointer, pointer, pointer], some pointer,
      fun runtime session tableName path =>
        .downcall (.sessionRegisterCsv runtime session tableName path)⟩,
    ⟨"session_register_parquet", [pointer, pointer, pointer, pointer], some pointer,
      fun runtime session tableName path =>
        .downcall (.sessionRegisterParquet runtime session tableName path)⟩,
    ⟨"dataframe_free", [pointer], none, fun dataframe => .dataframeFree dataframe⟩,
    ⟨"dataframe_collect", [pointer, pointer, pointer], some pointer,
      fun runtime dataframe streamOut =>
        .downcall (.dataframeCollect runtime dataframe streamOut)⟩,
    ⟨"dataframe_count", [pointer, pointer], some pointer,
      fun runtime dataframe => .downcall (.dataframeCount runtime dataframe)⟩,
    .unary "dataframe_filter" [pointer] fun runtime dataframe expr =>
      .downcall (.unary (.filter expr) runtime dataframe),
    .unary "dataframe_select" [pointer, usize] fun runtime dataframe exprs len =>
      .downcall (.unary (.select (exprs, len)) runtime dataframe),
    .unary "dataframe_limit" [cInt, cInt] fun runtime dataframe skip fetch =>
      .downcall (.unary (.limit skip fetch) runtime dataframe),
    .unary "dataframe_sort" [pointer, usize] fun runtime dataframe exprs len =>
      .downcall (.unary (.sort (exprs, len)) runtime dataframe),
    .unary "dataframe_distinct" [] fun runtime dataframe =>
      .downcall (.unary .distinct runtime dataframe),
    .unary "dataframe_aggregate" [pointer, usize, pointer, usize]
      fun runtime dataframe groupExprs groupLen aggrExprs aggrLen =>
        .downcall
          (.unary (.aggregate (groupExprs, groupLen) (aggrExprs, aggrLen)) runtime dataframe),
    .unary "dataframe_select_columns" [pointer, usize] fun runtime dataframe cols len =>
      .downcall (.unary (.selectColumns (cols, len)) runtime dataframe),
    .unary "dataframe_drop_columns" [pointer, usize] fun runtime dataframe cols len =>
      .downcall (.unary (.dropColumns (cols, len)) runtime dataframe),
    .unary "dataframe_with_column" [pointer, pointer] fun runtime dataframe name expr =>
      .downcall (.unary (.withColumn name expr) runtime dataframe),
    .unary "dataframe_with_column_renamed" [pointer, pointer]
      fun runtime dataframe oldName newName =>
        .downcall (.unary (.withColumnRenamed oldName newName) runtime dataframe),
    .unary "dataframe_explain" [bool, bool] fun runtime dataframe verbose analyze =>
      .downcall (.unary (.explain verbose analyze) runtime dataframe),
    ⟨"dataframe_join", [pointer, pointer, pointer, cInt, pointer, usize, pointer, usize],
      some pointer, fun runtime left right joinType leftCols leftLen rightCols rightLen =>
        .downcall (.binary (.join joinType (leftCols, leftLen) (rightCols, rightLen))
          runtime left right)⟩,
    .binary "dataframe_union" .union, .binary "dataframe_union_distinct" .unionDistinct,
    .binary "dataframe_except" .except, .binary "dataframe_intersect" .intersect]

/-- `LOOKUP.find`. -/
def lookup (name : String) : Option ExternC := externs.find? fun f => f.name == name

/-! ## arriving -/

/-- A call is entered as it was meant, and its result comes back, whatever
the words hold besides. -/
structure Arrives (c : ForeignCall) (f : ExternC) : Prop where
  found : lookup c.methodHandle.name = some f
  entered : ∀ junk, (c.methodHandle.descriptor.invokeExact junk c.arguments).bind
    (enter f.parameters f.call) = some c
  returned : ∀ t (v : t.Val) junk, f.result = some t → (t.value v).Fits →
    c.methodHandle.descriptor.result.map (ValueLayout.read (t.write junk v)) = some (t.value v)
  void : f.result = none → c.methodHandle.descriptor.result = none

/-- It does when the two sides agree on its name, its result and its
parameters. -/
theorem arrives_of {c : ForeignCall} {f : ExternC} (vs : Vals f.parameters)
    (hname : lookup c.methodHandle.name = some f)
    (hlayouts : c.methodHandle.descriptor.arguments = c.arguments.map Value.layout)
    (hresult : c.methodHandle.descriptor.result = f.result.map CType.layout)
    (hvalues : c.arguments = values f.parameters vs) (hcall : apply f.parameters f.call vs = c)
    (hfits : ∀ v ∈ c.arguments, v.Fits) : Arrives c f where
  found := hname
  entered junk := by
    rw [FunctionDescriptor.invokeExact, if_pos hlayouts.symm, Option.bind_some, hvalues,
      enter_of_values f.parameters f.call vs (hvalues ▸ hfits) junk, hcall]
  returned t v junk ht hv := by
    rw [hresult, ht, Option.map_some, Option.map_some, CType.layout_read_write hv]
  void hf := by rw [hresult, hf, Option.map_none]

/-- A frame method with one operand arrives. -/
theorem UnaryOp.arrives (op : UnaryOp Addr StrArray) (runtime dataframe : Addr)
    (hfits : ∀ v ∈ (ForeignCall.downcall (.unary op runtime dataframe)).arguments, v.Fits) :
    ∃ f, Arrives (.downcall (.unary op runtime dataframe)) f := by
  -- once the name has found the function, the layouts, the result, the values
  -- and the call are compared
  cases op with
  | filter expr =>
      refine ⟨_, arrives_of (runtime, dataframe, expr, ()) rfl ?_ ?_ ?_ ?_ hfits⟩
      all_goals rfl
  | select strs | sort strs | selectColumns strs | dropColumns strs =>
      -- an array is passed as its address and its length
      refine ⟨_, arrives_of (runtime, dataframe, strs.1, strs.2, ()) rfl ?_ ?_ ?_ ?_ hfits⟩
      all_goals rfl
  | limit skip fetch =>
      refine ⟨_, arrives_of (runtime, dataframe, skip, fetch, ()) rfl ?_ ?_ ?_ ?_ hfits⟩
      all_goals rfl
  | distinct =>
      refine ⟨_, arrives_of (runtime, dataframe, ()) rfl ?_ ?_ ?_ ?_ hfits⟩
      all_goals rfl
  | aggregate groupExprs aggrExprs =>
      refine ⟨_, arrives_of
        (runtime, dataframe, groupExprs.1, groupExprs.2, aggrExprs.1, aggrExprs.2, ()) rfl ?_ ?_ ?_
        ?_ hfits⟩
      all_goals rfl
  | withColumn a b | withColumnRenamed a b | explain a b =>
      refine ⟨_, arrives_of (runtime, dataframe, a, b, ()) rfl ?_ ?_ ?_ ?_ hfits⟩
      all_goals rfl

/-- A method on two frames arrives. -/
theorem BinaryOp.arrives (op : BinaryOp Int StrArray) (runtime left right : Addr)
    (hfits : ∀ v ∈ (ForeignCall.downcall (.binary op runtime left right)).arguments, v.Fits) :
    ∃ f, Arrives (.downcall (.binary op runtime left right)) f := by
  cases op with
  | join joinType leftCols rightCols =>
      refine ⟨_, arrives_of (runtime, left, right, joinType, leftCols.1, leftCols.2, rightCols.1,
        rightCols.2, ()) rfl ?_ ?_ ?_ ?_ hfits⟩
      all_goals rfl
  | union | unionDistinct | except | intersect =>
      refine ⟨_, arrives_of (runtime, left, right, ()) rfl ?_ ?_ ?_ ?_ hfits⟩
      all_goals rfl

/-- A call that returns a `DFResult` arrives. -/
theorem Downcall.arrives (c : Downcall) (hfits : ∀ v ∈ (ForeignCall.downcall c).arguments, v.Fits) :
    ∃ f, Arrives (.downcall c) f := by
  cases c with
  | runtimeNew =>
      refine ⟨_, arrives_of () rfl ?_ ?_ ?_ ?_ hfits⟩
      all_goals rfl
  | sessionNew runtime =>
      refine ⟨_, arrives_of (runtime, ()) rfl ?_ ?_ ?_ ?_ hfits⟩
      all_goals rfl
  | sessionSql a b c | dataframeCollect a b c =>
      refine ⟨_, arrives_of (a, b, c, ()) rfl ?_ ?_ ?_ ?_ hfits⟩
      all_goals rfl
  | sessionRegisterCsv a b c d | sessionRegisterParquet a b c d =>
      refine ⟨_, arrives_of (a, b, c, d, ()) rfl ?_ ?_ ?_ ?_ hfits⟩
      all_goals rfl
  | dataframeCount runtime dataframe =>
      refine ⟨_, arrives_of (runtime, dataframe, ()) rfl ?_ ?_ ?_ ?_ hfits⟩
      all_goals rfl
  | unary op runtime dataframe => exact op.arrives runtime dataframe hfits
  | binary op runtime left right => exact op.arrives runtime left right hfits

/-- What a handle does with its arguments. -/
def MethodHandle.invoke {T : Types} (E : Engine T) (mem : Mem) (junk : Nat → Word)
    (handle : MethodHandle) (arguments : List Value) :
    Option (Native T → CallEnd × Native T) := do
  let f ← lookup handle.name
  let words ← handle.descriptor.invokeExact junk arguments
  match ← enter f.parameters f.call words with
  | .downcall c => some (c.invoke E mem)
  | _ => none

/-- A handle is as good as the function itself. -/
theorem invoke_methodHandle {T : Types} (E : Engine T) (mem : Mem) (junk : Nat → Word)
    {c : Downcall} (hfits : ∀ v ∈ c.arguments, v.Fits) :
    c.methodHandle.invoke E mem junk c.arguments = some (c.invoke E mem) := by
  obtain ⟨f, h⟩ := c.arrives hfits
  have hfound : lookup c.methodHandle.name = some f := h.found
  have hentered : (c.methodHandle.descriptor.invokeExact junk c.arguments).bind
      (enter f.parameters f.call) = some (.downcall c) := h.entered junk
  obtain ⟨words, hwords, henter⟩ := Option.bind_eq_some_iff.mp hentered
  simp [MethodHandle.invoke, hfound, hwords, henter]

/-- **Every foreign call arrives.**  The function a method handle finds by
its name is entered with exactly the arguments the caller has passed, and
the caller gets exactly its result: for all values the Java types can hold,
and whatever else is in the registers. -/
theorem foreign_call_arrives (c : ForeignCall) (h : ∀ v ∈ c.arguments, v.Fits) :
    ∃ f, Arrives c f := by
  cases c with
  | add a b =>
      refine ⟨_, arrives_of (a, b, ()) rfl ?_ ?_ ?_ ?_ h⟩
      all_goals rfl
  | resultIsOk p | resultUnwrap p | resultErrorMessage p | resultFree p | runtimeFree p
  | sessionFree p | dataframeFree p =>
      refine ⟨_, arrives_of (p, ()) rfl ?_ ?_ ?_ ?_ h⟩
      all_goals rfl
  | downcall c => exact c.arrives h

/-- A join on two columns, with a negative number for its type. -/
theorem foreign_call_arrives_join :
    ∃ f, Arrives (.downcall (.binary (.join (-1) (48, 2) (64, 2)) 16 24 32)) f :=
  foreign_call_arrives _ (by simp [ForeignCall.arguments, Downcall.arguments, BinaryOp.arguments,
    Value.Fits])

end DataFusionPanama
