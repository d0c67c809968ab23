import DataFusionPanama.Native.Strings

/-!
# DataFusionPanama.Java.Jvm

What the Java classes of the binding rest on: strings, throwables, the two
`try` shapes the sources use, and the confined arena string arguments are
allocated in.

A Java method runs on the native state and stops in one of two ways: it
throws, or a native call takes the whole process down.  Only a throw can be
caught; an abort passes through every `catch` and every `finally`.
-/

namespace DataFusionPanama

variable {T : Types} {α : Type}

/-- A Java `String`: its UTF-16 code units. -/
abbrev JString := List UInt16

/-- What a method throws. -/
inductive Throwable where
  | dataFusionException (message : JString)
  | illegalStateException (message : String)
  | nullPointerException
  | assertionError (message : String) (cause : Throwable)
  /-- Thrown by a library: an `IOException`, an `OutOfMemoryException`. -/
  | library (name : String)
  deriving DecidableEq, Repr

/-- How a method stops without a value. -/
inductive Stop where
  | thrown (t : Throwable)
  | aborted
  deriving DecidableEq, Repr

/-- A Java method. -/
abbrev JavaM (T : Types) (α : Type) := Prog (Native T) Stop α

def throwing (t : Throwable) : JavaM T α := throw (.thrown t)

/-- `catch (DataFusionException e) { throw e; } catch (Throwable t) { throw
new AssertionError(message, t); }` -/
def Stop.orAssertionError (message : String) : Stop → Stop
  | .thrown (.dataFusionException m) => .thrown (.dataFusionException m)
  | .thrown t => .thrown (.assertionError message t)
  | .aborted => .aborted

/-- The `try` around every native call. -/
def tryNative (x : JavaM T α) : JavaM T α :=
  x.mapError (Stop.orAssertionError "unexpected FFI invocation error")

/-- `try { x } finally { cleanup }`, for a cleanup that does not throw. -/
def tryFinally (x : JavaM T α) (cleanup : Native T → Native T) : JavaM T α := fun n =>
  match x.exec n with
  | (.error .aborted, n') => (.error .aborted, n')
  | (r, n') => (r, cleanup n')

/-- The cleanup runs last, whatever is returned or thrown. -/
theorem exec_tryFinally {x : JavaM T α} {cleanup : Native T → Native T} {n n' : Native T}
    {r : Except Stop α} (h : x.exec n = (r, n')) (hr : r ≠ .error .aborted) :
    (tryFinally x cleanup).exec n = (r, cleanup n') := by
  change (match x.exec n with | (.error .aborted, n'') => _ | (r', n'') => _) = _
  rw [h]
  split
  · next heq => cases heq; contradiction
  · next heq => cases heq; rfl

/-! ## the arena -/

/-- A computation in a confined arena. -/
abbrev ArenaM (α : Type) := Prog Mem Throwable α

/-- `try (Arena arena = Arena.ofConfined()) { .. }`: the arena of one call. -/
def confined (x : ArenaM α) : JavaM T (α × Mem) :=
  .reads fun _ => match x.exec .empty with
    | (.ok a, mem) => .ok (a, mem)
    | (.error t, _) => .error (.thrown t)

/-- The characters of a string as they are encoded: an unpaired surrogate
becomes `?`. -/
def JString.text (s : JString) : Text := decodeUtf16 '?' s

/-- `arena.allocateFrom(s)`: the UTF-8 of the whole string, and one NUL. -/
def allocateFrom : Option JString → ArenaM Addr
  | none => throw .nullPointerException
  | some s => .updates fun mem => mem.alloc (.bytes (utf8 (JString.text s) ++ [0]))

/-- `array.setAtIndex(ADDRESS, i, p)` -/
def setAtIndex (array : Addr) (i : Nat) (p : Addr) : ArenaM Unit :=
  .updates fun mem => match mem.get? array with
    | some (.pointers ps) => ((), mem.put array (.pointers (ps.set i p)))
    | _ => ((), mem)

/-- The loop of `allocateStringArray`, from index `i` on. -/
def fillStringArray (array : Addr) : Nat → List (Option JString) → ArenaM Unit
  | _, [] => pure ()
  | i, s :: strings => do
      let str ← allocateFrom s
      setAtIndex array i str
      fillStringArray array (i + 1) strings

/-- Allocates a C-style array of string pointers in the given arena. -/
def allocateStringArray : Option (List (Option JString)) → ArenaM StrArray
  | none => throw .nullPointerException
  | some strings => do
      let array ← .updates fun mem => mem.alloc (.pointers (List.replicate strings.length 0))
      fillStringArray array 0 strings
      pure (array, strings.length)

/-- A `String` argument: null, or a string. -/
abbrev JArg := Option JString

/-- A `String[]` argument. -/
abbrev JArgs := Option (List (Option JString))

/-- The string arguments of a frame method, allocated in the order of the
sources. -/
def UnaryOp.marshal : UnaryOp JArg JArgs → ArenaM (UnaryOp Addr StrArray)
  | .filter expr => return .filter (← allocateFrom expr)
  | .select exprs => return .select (← allocateStringArray exprs)
  | .limit skip fetch => return .limit skip fetch
  | .sort exprs => return .sort (← allocateStringArray exprs)
  | .distinct => return .distinct
  | .aggregate groupExprs aggrExprs => do
      let groupPtr ← allocateStringArray groupExprs
      let aggrPtr ← allocateStringArray aggrExprs
      return .aggregate groupPtr aggrPtr
  | .selectColumns columns => return .selectColumns (← allocateStringArray columns)
  | .dropColumns columns => return .dropColumns (← allocateStringArray columns)
  | .withColumn name expr => do
      let nameSegment ← allocateFrom name
      let exprSegment ← allocateFrom expr
      return .withColumn nameSegment exprSegment
  | .withColumnRenamed oldName newName => do
      let oldSegment ← allocateFrom oldName
      let newSegment ← allocateFrom newName
      return .withColumnRenamed oldSegment newSegment
  | .explain verbose analyze => return .explain verbose analyze

def BinaryOp.marshal {Join : Type} : BinaryOp Join JArgs → ArenaM (BinaryOp Join StrArray)
  | .join joinType leftColumns rightColumns => do
      let leftPtr ← allocateStringArray leftColumns
      let rightPtr ← allocateStringArray rightColumns
      return .join joinType leftPtr rightPtr
  | .union => return .union
  | .unionDistinct => return .unionDistinct
  | .except => return .except
  | .intersect => return .intersect

/-- The two strings of a registration. -/
def allocateNameAndPath (tableName path : JArg) : ArenaM (Addr × Addr) := do
  let nameSegment ← allocateFrom tableName
  let pathSegment ← allocateFrom path
  return (nameSegment, pathSegment)

end DataFusionPanama
