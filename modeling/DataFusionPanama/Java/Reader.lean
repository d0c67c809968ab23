import DataFusionPanama.Java.NativeLibrary

/-!
# DataFusionPanama.Java.Reader

`RecordBatchReaderImpl`: collecting a frame into an `ArrowArrayStream` and
reading it.  Three resources with three owners meet here: the allocator,
the struct whose memory comes from it, and the batches Rust puts behind the
struct, which only the struct's release callback gives back.

The Arrow library is modelled as far as it is observable in these three:
`allocateNew` takes memory, `close` on a stream is idempotent, gives the
memory back and does not call the release callback, `importArrayStream`
either throws and touches nothing or moves the stream into a struct of the
reader's own, and closing the reader releases that one.  Which of the steps
throw is up to the environment.
-/

namespace DataFusionPanama

variable {T : Types} {α σ : Type}

/-! ## Arrow -/

/-- The steps of one `create` that may throw, and what they throw. -/
structure ArrowEnv where
  allocateNew : Option Throwable
  invoke : Option Throwable
  importArrayStream : Option Throwable

/-- A `RootAllocator` and the stream exported through it. -/
structure Arrow where
  /-- Allocations not given back. -/
  outstanding : Nat
  /-- For each `RootAllocator.close`, what was outstanding then. -/
  closes : List Nat
  /-- Invocations of the release callback. -/
  released : Nat
  deriving DecidableEq, Repr

/-- `new RootAllocator()` -/
def Arrow.new : Arrow := ⟨0, [], 0⟩

/-- The native side, and the resources of one reader. -/
structure Collect (T : Types) where
  native : Native T
  arrow : Arrow

/-- A method that works with a reader's resources. -/
abbrev ReaderM (T : Types) (α : Type) := Prog (Collect T) Stop α

def inNative (x : JavaM T α) : ReaderM T α :=
  x.zoom Collect.native fun n s => { s with native := n }

/-- Throw what the environment says, if anything. -/
def throws (t : Option Throwable) : Prog σ Stop Unit :=
  match t with
  | some t => throw (.thrown t)
  | none => pure ()

/-- `try { x } catch (Throwable t) { handler }` -/
def catchThrowable (x : Prog σ Stop α) (handler : Throwable → Prog σ Stop α) : Prog σ Stop α :=
  fun s => match x.exec s with
    | (.error (.thrown t), s') => (handler t).exec s'
    | r => r

/-- `ArrowArrayStream.allocateNew(alloc)` -/
def allocateNew (env : ArrowEnv) : ReaderM T Addr := do
  throws env.allocateNew
  .updates fun s =>
    let (p, streams) := s.native.streams.alloc none
    (p, ⟨{ s.native with streams := streams },
      { s.arrow with outstanding := s.arrow.outstanding + 1 }⟩)

/-- Nothing is caught of a success. -/
theorem exec_catchThrowable_ok {x : Prog σ Stop α} {handler : Throwable → Prog σ Stop α}
    {s s' : σ} {a : α} (h : x.exec s = (.ok a, s')) :
    (catchThrowable x handler).exec s = (.ok a, s') := by
  change (match x.exec s with | (.error (.thrown t), s'') => _ | r => r) = _
  rw [h]

/-- Nothing is caught of the end of the process. -/
theorem exec_catchThrowable_aborted {x : Prog σ Stop α} {handler : Throwable → Prog σ Stop α}
    {s s' : σ} (h : x.exec s = (.error .aborted, s')) :
    (catchThrowable x handler).exec s = (.error .aborted, s') := by
  change (match x.exec s with | (.error (.thrown t), s'') => _ | r => r) = _
  rw [h]

/-- Everything else is. -/
theorem exec_catchThrowable_thrown {x : Prog σ Stop α} {handler : Throwable → Prog σ Stop α}
    {s s' : σ} {t : Throwable} (h : x.exec s = (.error (.thrown t), s')) :
    (catchThrowable x handler).exec s = (handler t).exec s' := by
  change (match x.exec s with | (.error (.thrown t), s'') => (handler t).exec s'' | r => r) = _
  rw [h]

/-- `stream.close()` -/
def closeStream (stream : Addr) : ReaderM T Unit :=
  .updates fun s =>
    if s.native.streams.Live stream then
      ((), ⟨s.native.freeStruct stream,
        { s.arrow with outstanding := s.arrow.outstanding - 1 }⟩)
    else ((), s)

/-- `alloc.close()`: throws when memory is outstanding. -/
def closeAllocator : ReaderM T Unit := do
  let outstanding ← .updates fun s =>
    (s.arrow.outstanding,
      { s with arrow := { s.arrow with closes := s.arrow.closes ++ [s.arrow.outstanding] } })
  if outstanding = 0 then pure ()
  else throw (.thrown (.illegalStateException "Memory was leaked by query."))

/-- `Data.importArrayStream(alloc, stream)`: the struct the stream is moved
into. -/
def importArrayStream (env : ArrowEnv) (stream : Addr) : ReaderM T Addr := do
  throws env.importArrayStream
  let content ← .reads fun s => match s.native.streams.get? stream with
    | some (some content) => .ok content
    | _ => .error (.thrown (.library "Cannot import released ArrowArrayStream"))
  let owned ← .updates fun s =>
    let (p, streams) := s.native.streams.alloc (some content)
    (p, ⟨{ s.native with streams := streams.put stream none },
      { s.arrow with outstanding := s.arrow.outstanding + 1 }⟩)
  closeStream stream
  pure owned

/-- The struct is the first thing the new allocator hands out. -/
theorem exec_allocateNew {env : ArrowEnv} (n : Native T) (h : env.allocateNew = none) :
    (allocateNew env).exec (⟨n, .new⟩ : Collect T) = (.ok (n.streams.alloc none).1,
      ⟨{ n with streams := (n.streams.alloc none).2 }, ⟨1, [], 0⟩⟩) := by
  unfold allocateNew throws
  rw [h]
  rfl

/-- An allocation that throws does nothing. -/
theorem exec_allocateNew_error {env : ArrowEnv} {t : Throwable} (h : env.allocateNew = some t)
    (s : Collect T) : (allocateNew env).exec s = (.error (.thrown t), s) := by
  unfold allocateNew throws
  rw [h]
  rfl

/-! ## RecordBatchReaderImpl -/

/-- A reader: the struct it owns, the batch in its vectors, and whether they
hold memory. -/
structure RecordBatchReaderImpl (T : Types) where
  owned : Addr
  current : Option T.Batch
  loaded : Bool
  closed : Bool

/-- The `try` around the downcall itself. -/
def invokeCollect (E : Engine T) (env : ArrowEnv) (runtimePtr dataframePtr stream : Addr) :
    ReaderM T Addr :=
  (do
    throws env.invoke
    inNative (invokeExact E .empty (.dataframeCollect runtimePtr dataframePtr stream)) :
    ReaderM T Addr).mapError fun
      | .thrown t => .thrown (.assertionError "unexpected FFI invocation error" t)
      | .aborted => .aborted

/-- A downcall that does not throw, and the unwrapping of its result, are
one native call. -/
theorem exec_invokeCollect {E : Engine T} {env : ArrowEnv} {runtimePtr dataframePtr stream : Addr}
    {f : Addr → ReaderM T α} {s : Collect T} (h : env.invoke = none) :
    (do
      let resultPtr ← invokeCollect E env runtimePtr dataframePtr stream
      let v ← inNative (unwrapOrThrow E resultPtr)
      f v).exec s =
    (do
      let v ← inNative (call E .empty (.dataframeCollect runtimePtr dataframePtr stream))
      f v).exec s := by
  simp only [invokeCollect, throws, h, inNative, Prog.exec_bind, Prog.exec_mapError, Prog.exec_pure,
    Prog.exec_zoom, call]
  rcases hr : (invokeExact E .empty (.dataframeCollect runtimePtr dataframePtr stream)).exec
    s.native with ⟨r | r, n'⟩
  · cases invokeExact_error hr
    rfl
  · rfl

/-- Let Rust populate the struct and import it into a reader. -/
def collectInto (E : Engine T) (env : ArrowEnv) (runtimePtr dataframePtr stream : Addr) :
    ReaderM T (RecordBatchReaderImpl T) := do
  let resultPtr ← invokeCollect E env runtimePtr dataframePtr stream
  let _ ← inNative (unwrapOrThrow E resultPtr)
  let reader ← importArrayStream env stream
  pure ⟨reader, none, false, false⟩

/-- A downcall that throws. -/
theorem exec_collectInto_error {E : Engine T} {env : ArrowEnv}
    {runtimePtr dataframePtr stream : Addr} {t : Throwable} (h : env.invoke = some t)
    (s : Collect T) :
    (collectInto E env runtimePtr dataframePtr stream).exec s =
      (.error (.thrown (.assertionError "unexpected FFI invocation error" t)), s) := by
  simp only [collectInto, invokeCollect, throws, h, Prog.exec_bind, Prog.exec_mapError,
    Prog.exec_throw]
  rfl

/-- The inner `catch`: close the struct. -/
def rethrowClosingStream (stream : Addr) (t : Throwable) : ReaderM T α := do
  closeStream stream
  throw (.thrown t)

/-- The outer `catch`: close the allocator. -/
def rethrowClosingAllocator (t : Throwable) : ReaderM T α := do
  closeAllocator
  match t with
  | .dataFusionException m => throw (.thrown (.dataFusionException m))
  | t => throw (.thrown (.assertionError "unexpected error creating RecordBatchReader" t))

/-- Creates a new reader by calling `dataframe_collect` and importing the
resulting stream. -/
def RecordBatchReaderImpl.create (E : Engine T) (env : ArrowEnv)
    (runtimePtr dataframePtr : Addr) : ReaderM T (RecordBatchReaderImpl T) :=
  catchThrowable (do
    let stream ← allocateNew env
    catchThrowable (collectInto E env runtimePtr dataframePtr stream) (rethrowClosingStream stream))
    rethrowClosingAllocator

/-- A reader with its resources. -/
structure Reading (T : Types) where
  collect : Collect T
  reader : RecordBatchReaderImpl T

namespace Reading

def inCollect (x : ReaderM T α) : Prog (Reading T) Stop α :=
  x.zoom collect fun c s => { s with collect := c }

/-- `if (closed) throw new IllegalStateException("reader is closed");` -/
def checkOpen : Prog (Reading T) Stop Unit :=
  .reads fun s =>
    if s.reader.closed then .error (.thrown (.illegalStateException "reader is closed")) else .ok ()

/-- The stream the reader owns. -/
def ownedStream : Prog (Reading T) Stop (Stream T) :=
  .reads fun s => match s.collect.native.streams.get? s.reader.owned with
    | some (some stream) => .ok stream
    | _ => .error (.thrown (.library "ArrowArrayStream is already closed"))

/-- `arrowReader.loadNextBatch()` -/
def loadNextBatch : Prog (Reading T) Stop Bool := do
  let stream ← ownedStream
  match stream.batches with
  | [] => .updates fun s => (false, { s with reader := { s.reader with current := none } })
  | b :: batches =>
      .updates fun s =>
        let native := s.collect.native
        let streams := native.streams.put s.reader.owned (some { stream with batches := batches })
        let arrow := s.collect.arrow
        let taken := if s.reader.loaded then arrow.outstanding else arrow.outstanding + 1
        (true, ⟨⟨{ native with streams := streams }, { arrow with outstanding := taken }⟩,
          { s.reader with current := some b, loaded := true }⟩)

/-- Advances the reader to the next record batch.  `io` is the message of an
`IOException` of the Arrow reader. -/
def next (io : Option JString) : Prog (Reading T) Stop Bool := do
  checkOpen
  match io with
  | some e => throw (.thrown (.dataFusionException
      (encodeUtf16 "failed to load next batch: ".toList ++ e)))
  | none => loadNextBatch

def getSchema (io : Option JString) : Prog (Reading T) Stop T.Schema := do
  checkOpen
  match io with
  | some _ => throw (.thrown (.assertionError "failed to get schema" (.library "IOException")))
  | none => do
      let stream ← ownedStream
      pure stream.schema

def getCurrentBatch (io : Option JString) : Prog (Reading T) Stop (Option T.Batch) := do
  checkOpen
  match io with
  | some _ =>
      throw (.thrown (.assertionError "failed to get current batch" (.library "IOException")))
  | none => .reads fun s => .ok s.reader.current

/-- `arrowReader.close()`: the vectors are freed, the stream is released, its
struct is closed. -/
def closeArrowReader : Prog (Reading T) Stop Unit := do
  .updates fun s =>
    let arrow := s.collect.arrow
    let kept := if s.reader.loaded then arrow.outstanding - 1 else arrow.outstanding
    let released := match s.collect.native.streams.get? s.reader.owned with
      | some (some _) => arrow.released + 1
      | _ => arrow.released
    let streams := s.collect.native.streams.put s.reader.owned none
    ((), ⟨⟨{ s.collect.native with streams := streams },
        { arrow with outstanding := kept, released := released }⟩,
      { s.reader with loaded := false, current := none }⟩)
  let owned ← .reads fun s => .ok s.reader.owned
  inCollect (closeStream owned)

/-- Closes the reader; a second call does nothing.  The allocator is closed
whether or not closing the Arrow reader throws. -/
def close (io : Option JString) : Prog (Reading T) Stop Unit := do
  let closed ← .reads fun s => .ok s.reader.closed
  if closed then pure ()
  else do
    .updates fun s => ((), { s with reader := { s.reader with closed := true } })
    closeArrowReader
    inCollect closeAllocator
    match io with
    | some _ =>
        throw (.thrown (.assertionError "failed to close ArrowReader" (.library "IOException")))
    | none => pure ()

end Reading

/-- A call on a reader, with the `IOException` of the Arrow reader if there
is one. -/
inductive ReaderCall where
  | next (io : Option JString)
  | getSchema (io : Option JString)
  | getCurrentBatch (io : Option JString)
  | close (io : Option JString)
  deriving DecidableEq, Repr

def ReaderCall.isClose : ReaderCall → Bool
  | .close _ => true
  | _ => false

/-- What a call leaves, whether it returns or throws. -/
def ReaderCall.run (s : Reading T) : ReaderCall → Reading T
  | .next io => ((Reading.next io).exec s).2
  | .getSchema io => ((Reading.getSchema io).exec s).2
  | .getCurrentBatch io => ((Reading.getCurrentBatch io).exec s).2
  | .close io => ((Reading.close io).exec s).2

end DataFusionPanama
