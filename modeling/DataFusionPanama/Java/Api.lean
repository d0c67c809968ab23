import DataFusionPanama.Java.Reader

/-!
# DataFusionPanama.Java.Api

The wrapper classes.  A runtime or session wrapper clears its own pointer
when it is closed; a dataframe wrapper leaves that to its cleaning action,
which the `Cleaner` runs at most once, for `close` or after the wrapper has
become unreachable.  Sessions and frames copy the pointer of their runtime
and never check it.

The frame methods come in two shapes, like the functions they call:
`transform` and `combine`.  Their string arguments are allocated before the
wrapper's own pointer is looked at, and everything that is thrown inside
the `try`, the `IllegalStateException` of a closed frame included, leaves
as an `AssertionError`.
-/

namespace DataFusionPanama

variable {T : Types}

/-! ## the wrappers -/

/-- `MemorySegment.NULL` is address `0`. -/
structure DataFusionRuntimeImpl where
  pointer : Addr
  deriving DecidableEq, Repr

structure DataFusionSessionImpl where
  pointer : Addr
  runtimePointer : Addr
  deriving DecidableEq, Repr

/-- The `pointer` of the cleaning action, and whether the `Cleaner` has run
it. -/
structure DataFusionDataFrameImpl where
  pointer : Addr
  runtimePointer : Addr
  cleaned : Bool
  deriving DecidableEq, Repr

/-- `new DataFusionDataFrameImpl(pointer, runtimePointer)` -/
def DataFusionDataFrameImpl.new (pointer runtimePointer : Addr) : DataFusionDataFrameImpl :=
  ⟨pointer, runtimePointer, false⟩

/-- A pointer field that must not have been cleared. -/
def openPointer (pointer : Addr) (message : String) : JavaM T Addr :=
  if pointer = 0 then throwing (.illegalStateException message) else pure pointer

/-- A pointer field that has not been cleared; `none` is Java's `null`. -/
def IsOpen (pointer : Option Addr) : Prop := ∃ p, p ≠ 0 ∧ pointer = some p

/-! ## DataFusionDataFrameImpl -/

/-- The integer value passed to the native FFI layer. -/
def JoinType.nativeValue : JoinType → Int
  | .inner => 0
  | .left => 1
  | .right => 2
  | .full => 3
  | .leftSemi => 4
  | .rightSemi => 5
  | .leftAnti => 6
  | .rightAnti => 7

/-- The native side knows every join type by the value it is passed as. -/
theorem joinTypeFromInt_nativeValue (jt : JoinType) :
    joinTypeFromInt jt.nativeValue = pure jt := by
  cases jt <;> rfl

/-- `joinType.nativeValue()`, on an argument that may be null. -/
def BinaryOp.nativeValue {Strs : Type} :
    BinaryOp (Option JoinType) Strs → JavaM T (BinaryOp Int Strs)
  | .join none _ _ => throwing .nullPointerException
  | .join (some jt) l r => pure (.join jt.nativeValue l r)
  | .union => pure .union
  | .unionDistinct => pure .unionDistinct
  | .except => pure .except
  | .intersect => pure .intersect

/-- `valuePtr.address()` as a `long`. -/
def address (value : Addr) : Int := (BitVec.ofNat 64 value).toInt

namespace DataFusionDataFrameImpl

def nativePointer (self : DataFusionDataFrameImpl) : JavaM T Addr :=
  openPointer self.pointer "DataFrame is closed"

/-- `other.nativePointer()`, on an operand that may be null. -/
def operandPointer : Option DataFusionDataFrameImpl → JavaM T Addr
  | none => throwing .nullPointerException
  | some other => other.nativePointer

/-- `CleaningAction.run` -/
def run (self : DataFusionDataFrameImpl) : JavaM T DataFusionDataFrameImpl :=
  if self.pointer = 0 then pure self
  else do
    .updates fun n => ((), dataframeFree self.pointer n)
    pure { self with pointer := 0 }

/-- `Cleanable.clean`, which the `Cleaner` thread ends up in as well: the
action is run at most once. -/
def clean (self : DataFusionDataFrameImpl) : JavaM T DataFusionDataFrameImpl :=
  if self.cleaned then pure self
  else do
    let self ← self.run
    pure { self with cleaned := true }

def close (self : DataFusionDataFrameImpl) : JavaM T DataFusionDataFrameImpl := self.clean

variable (E : Engine T) (self : DataFusionDataFrameImpl)

/-- The shape of a method from one frame to a new one. -/
def transform (op : UnaryOp JArg JArgs) : JavaM T DataFusionDataFrameImpl := tryNative do
  let (op, mem) ← confined op.marshal
  let pointer ← self.nativePointer
  let dfPtr ← call E mem (.unary op self.runtimePointer pointer)
  pure (.new dfPtr self.runtimePointer)

/-- The shape of a method from two frames to a new one; `other` may be null. -/
def combine (other : Option DataFusionDataFrameImpl) (op : BinaryOp (Option JoinType) JArgs) :
    JavaM T DataFusionDataFrameImpl := tryNative do
  let (op, mem) ← confined op.marshal
  let pointer ← self.nativePointer
  let otherPointer ← operandPointer other
  let op ← op.nativeValue
  let dfPtr ← call E mem (.binary op self.runtimePointer pointer otherPointer)
  pure (.new dfPtr self.runtimePointer)

def filter (expr : JArg) : JavaM T DataFusionDataFrameImpl := self.transform E (.filter expr)

def select (exprs : JArgs) : JavaM T DataFusionDataFrameImpl := self.transform E (.select exprs)

def limit (skip fetch : Int) : JavaM T DataFusionDataFrameImpl :=
  self.transform E (.limit skip fetch)

def sort (exprs : JArgs) : JavaM T DataFusionDataFrameImpl := self.transform E (.sort exprs)

def distinct : JavaM T DataFusionDataFrameImpl := self.transform E .distinct

def aggregate (groupExprs aggrExprs : JArgs) : JavaM T DataFusionDataFrameImpl :=
  self.transform E (.aggregate groupExprs aggrExprs)

def selectColumns (columns : JArgs) : JavaM T DataFusionDataFrameImpl :=
  self.transform E (.selectColumns columns)

def dropColumns (columns : JArgs) : JavaM T DataFusionDataFrameImpl :=
  self.transform E (.dropColumns columns)

def withColumn (name expr : JArg) : JavaM T DataFusionDataFrameImpl :=
  self.transform E (.withColumn name expr)

def withColumnRenamed (oldName newName : JArg) : JavaM T DataFusionDataFrameImpl :=
  self.transform E (.withColumnRenamed oldName newName)

def explain (verbose analyze : Bool) : JavaM T DataFusionDataFrameImpl :=
  self.transform E (.explain verbose analyze)

def join (right : Option DataFusionDataFrameImpl) (joinType : Option JoinType)
    (leftColumns rightColumns : JArgs) : JavaM T DataFusionDataFrameImpl :=
  self.combine E right (.join joinType leftColumns rightColumns)

def union (other : Option DataFusionDataFrameImpl) : JavaM T DataFusionDataFrameImpl :=
  self.combine E other .union

def unionDistinct (other : Option DataFusionDataFrameImpl) : JavaM T DataFusionDataFrameImpl :=
  self.combine E other .unionDistinct

def except (other : Option DataFusionDataFrameImpl) : JavaM T DataFusionDataFrameImpl :=
  self.combine E other .except

def intersect (other : Option DataFusionDataFrameImpl) : JavaM T DataFusionDataFrameImpl :=
  self.combine E other .intersect

/-- Returns the number of rows, which comes back disguised as a pointer. -/
def count : JavaM T Int := tryNative do
  let pointer ← self.nativePointer
  let valuePtr ← call E .empty (.dataframeCount self.runtimePointer pointer)
  pure (address valuePtr)

/-- A reader with its resources, or what `create` throws. -/
def collect (env : ArrowEnv) : JavaM T (Arrow × RecordBatchReaderImpl T) := do
  let pointer ← self.nativePointer
  fun n =>
    match (RecordBatchReaderImpl.create E env self.runtimePointer pointer).exec ⟨n, .new⟩ with
    | (.ok reader, s) => (.ok (s.arrow, reader), s.native)
    | (.error e, s) => (.error e, s.native)

end DataFusionDataFrameImpl

/-! ## DataFusionSessionImpl -/

namespace DataFusionSessionImpl

def nativePointer (self : DataFusionSessionImpl) : JavaM T Addr :=
  openPointer self.pointer "session is closed"

def close (self : DataFusionSessionImpl) : JavaM T DataFusionSessionImpl :=
  if self.pointer = 0 then pure self
  else do
    .updates fun n => ((), sessionFree self.pointer n)
    pure { self with pointer := 0 }

variable (E : Engine T)

def create (runtimePtr : Addr) : JavaM T DataFusionSessionImpl := tryNative do
  let sessionPtr ← call E .empty (.sessionNew runtimePtr)
  pure ⟨sessionPtr, runtimePtr⟩

variable (self : DataFusionSessionImpl)

def sql (query : JArg) : JavaM T DataFusionDataFrameImpl := tryNative do
  let (sqlSegment, mem) ← confined (allocateFrom query)
  let pointer ← self.nativePointer
  let dataframePtr ← call E mem (.sessionSql self.runtimePointer pointer sqlSegment)
  pure (.new dataframePtr self.runtimePointer)

/-- The shape of the two registration methods; `path` is the path's text. -/
def register (function : Addr → Addr → Addr → Addr → Downcall) (tableName path : JArg) :
    JavaM T Unit := tryNative do
  let ((nameSegment, pathSegment), mem) ← confined (allocateNameAndPath tableName path)
  let pointer ← self.nativePointer
  let _ ← call E mem (function self.runtimePointer pointer nameSegment pathSegment)
  pure ()

def registerCsv (tableName path : JArg) : JavaM T Unit :=
  self.register E .sessionRegisterCsv tableName path

def registerParquet (tableName path : JArg) : JavaM T Unit :=
  self.register E .sessionRegisterParquet tableName path

end DataFusionSessionImpl

/-! ## DataFusionRuntimeImpl -/

namespace DataFusionRuntimeImpl

def nativePointer (self : DataFusionRuntimeImpl) : JavaM T Addr :=
  openPointer self.pointer "runtime is closed"

def close (self : DataFusionRuntimeImpl) : JavaM T DataFusionRuntimeImpl :=
  if self.pointer = 0 then pure self
  else do
    .updates fun n => ((), runtimeFree self.pointer n)
    pure { self with pointer := 0 }

def create (E : Engine T) : JavaM T DataFusionRuntimeImpl := tryNative do
  let runtimePtr ← call E .empty .runtimeNew
  pure ⟨runtimePtr⟩

def newSession (E : Engine T) (self : DataFusionRuntimeImpl) : JavaM T DataFusionSessionImpl := do
  let pointer ← self.nativePointer
  DataFusionSessionImpl.create E pointer

end DataFusionRuntimeImpl

end DataFusionPanama
