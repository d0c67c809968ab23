import DataFusionPanama.Arrival
import DataFusionPanama.Expr
import DataFusionPanama.Lifecycle

/-!
# DataFusionPanama.Library

What the library is for.  `Library` has no native side: a runtime is open or
not, a session is the engine's context, a frame is a plan, and a reader is
what is left of the batches its frame was collected to.  A call either
throws, and then it says what, or adds the object it asks for; nothing is
ever shared between objects, and closing one is forgetting what it stands
for.

An engine operation sees the strings of a call as they arrive
(`JString.arrived`), and its failure is seen as `Fault.stop` says.  `allows`
is the one thing a caller has to take care of: a method of an open session
or frame needs the runtime it was opened on.
-/

namespace DataFusionPanama

variable {T : Types} {α : Type}

/-! ## arguments -/

/-- The strings of an array argument, unless it or one of them is null. -/
def JArgs.strings? (args : JArgs) : Option (List JString) := args.bind fun ss => ss.mapM id

/-- The arguments of a frame method, unless one of them is null. -/
def UnaryOp.strings? : UnaryOp JArg JArgs → Option (UnaryOp JString (List JString))
  | .filter expr => return .filter (← expr)
  | .select exprs => return .select (← JArgs.strings? exprs)
  | .limit skip fetch => return .limit skip fetch
  | .sort exprs => return .sort (← JArgs.strings? exprs)
  | .distinct => return .distinct
  | .aggregate groupExprs aggrExprs =>
      return .aggregate (← JArgs.strings? groupExprs) (← JArgs.strings? aggrExprs)
  | .selectColumns cols => return .selectColumns (← JArgs.strings? cols)
  | .dropColumns cols => return .dropColumns (← JArgs.strings? cols)
  | .withColumn name expr => return .withColumn (← name) (← expr)
  | .withColumnRenamed oldName newName => return .withColumnRenamed (← oldName) (← newName)
  | .explain verbose analyze => return .explain verbose analyze

/-- The columns of a method on two frames, unless one of them is null. -/
def BinaryOp.strings? {Join : Type} : BinaryOp Join JArgs → Option (BinaryOp Join (List JString))
  | .join joinType leftCols rightCols =>
      return .join joinType (← JArgs.strings? leftCols) (← JArgs.strings? rightCols)
  | .union => return .union
  | .unionDistinct => return .unionDistinct
  | .except => return .except
  | .intersect => return .intersect

/-- The same with its join type, unless that is null. -/
def BinaryOp.joined? {Strs : Type} :
    BinaryOp (Option JoinType) Strs → Option (BinaryOp JoinType Strs)
  | .join joinType leftCols rightCols => return .join (← joinType) leftCols rightCols
  | .union => return .union
  | .unionDistinct => return .unionDistinct
  | .except => return .except
  | .intersect => return .intersect

/-! ## outcomes -/

/-- What is thrown inside the `try` around a native call. -/
def unexpected (t : Throwable) : Stop :=
  .thrown (.assertionError "unexpected FFI invocation error" t)

/-- An argument that must not be null. -/
def given (arg : Option α) : Except Stop α :=
  match arg with
  | some a => .ok a
  | none => .error (unexpected .nullPointerException)

/-- What a wrapper stands for, which must not have been closed. -/
def opened (object : Option α) (message : String) : Except Stop α :=
  match object with
  | some a => .ok a
  | none => .error (unexpected (.illegalStateException message))

/-- What the steps around a collect throw, if anything. -/
def attempt (t : Option Throwable) : Except Stop Unit :=
  match t with
  | some t => .error (.thrown t)
  | none => .ok ()

/-- What a collect exports. -/
def exported (E : Engine T) (df : T.Plan) : Outcome (Stream T) := do
  let batches ← E.collect df
  pure ⟨E.schema df, batches⟩

/-- The steps of creating a reader, each of which may throw, around a native
call with this outcome. -/
def collectSteps (env : ArrowEnv) (o : Outcome (Stream T)) : Except Stop (Stream T) := do
  attempt env.allocateNew
  attempt (env.invoke.map (Throwable.assertionError "unexpected FFI invocation error"))
  let stream ← seen o
  attempt env.importArrayStream
  return stream

def createOutcome (env : ArrowEnv) (o : Outcome (Stream T)) : Except Stop (Stream T) :=
  (collectSteps env o).mapError
    (Stop.orAssertionError "unexpected error creating RecordBatchReader")

section Outcomes

variable (E : Engine T)

def sqlOutcome (context : Option T.Ctx) (query : JArg) : Except Stop (Outcome T.Plan × T.Ctx) := do
  let text ← given query
  let context ← opened context "session is closed"
  return E.sql context (JString.arrived text)

def registerOutcome (register : T.Ctx → Text → Text → Outcome Unit × T.Ctx)
    (context : Option T.Ctx) (tableName path : JArg) : Except Stop (Outcome Unit × T.Ctx) := do
  let tableName ← given tableName
  let path ← given path
  let context ← opened context "session is closed"
  return register context (JString.arrived tableName) (JString.arrived path)

def transformOutcome (plan : Option T.Plan) (op : UnaryOp JArg JArgs) : Except Stop T.Plan := do
  let op ← given op.strings?
  let df ← opened plan "DataFrame is closed"
  seen (op.delivered.apply E pure pure df)

/-- `right` is the other operand, which may be null or closed. -/
def combineOutcome (left : Option T.Plan) (right : Option (Option T.Plan))
    (op : BinaryOp (Option JoinType) JArgs) : Except Stop T.Plan := do
  let op ← given op.strings?
  let leftDf ← opened left "DataFrame is closed"
  let right ← given right
  let rightDf ← opened right "DataFrame is closed"
  let op ← given op.joined?
  seen (op.delivered.apply E pure pure leftDf rightDf)

/-- A count is a `long`. -/
def countOutcome (plan : Option T.Plan) : Except Stop Int := do
  let df ← opened plan "DataFrame is closed"
  let rows ← seen (E.count df)
  return address rows

def collectedOutcome (plan : Option T.Plan) (env : ArrowEnv) : Except Stop (Stream T) :=
  match plan with
  | none => .error (.thrown (.illegalStateException "DataFrame is closed"))
  | some df => createOutcome env (exported E df)

def newSessionOutcome (open_ : Bool) : Except Stop T.Ctx :=
  if open_ then seen E.contextNew else .error (.thrown (.illegalStateException "runtime is closed"))

end Outcomes

/-! ## the state -/

/-- What a session wrapper stands for, unless it is closed, and its runtime. -/
structure SessionState (T : Types) where
  context : Option T.Ctx
  runtime : Nat

structure FrameState (T : Types) where
  plan : Option T.Plan
  runtime : Nat
  dropped : Bool

/-- An open reader: its current batch, and those it has not come to. -/
structure ReaderState (T : Types) where
  schema : T.Schema
  current : Option T.Batch
  rest : List T.Batch

structure Library (T : Types) where
  runtimes : List Bool
  sessions : List (SessionState T)
  frames : List (FrameState T)
  /-- `none` is a closed reader. -/
  readers : List (Option (ReaderState T))
  halted : Bool

/-- What the caller sees of a call. -/
inductive Observed (T : Types) where
  | called (r : Except Stop Unit)
  | count (r : Except Stop Int)
  | next (r : Except Stop Bool)
  | schema (r : Except Stop T.Schema)
  | batch (r : Except Stop (Option T.Batch))

/-! ## reading -/

def readerClosed : Stop := .thrown (.illegalStateException "reader is closed")

/-- A call on a reader: what it shows, and what is left. -/
def ReaderState.call (r : ReaderState T) : ReaderCall → Observed T × Option (ReaderState T)
  | .next none => match r.rest with
      | [] => (.next (.ok false), some { r with current := none })
      | b :: rest => (.next (.ok true), some { r with current := some b, rest := rest })
  | .next (some e) => (.next (.error (.thrown (.dataFusionException
      (encodeUtf16 "failed to load next batch: ".toList ++ e)))), some r)
  | .getSchema none => (.schema (.ok r.schema), some r)
  | .getSchema (some _) => (.schema (.error (.thrown
      (.assertionError "failed to get schema" (.library "IOException")))), some r)
  | .getCurrentBatch none => (.batch (.ok r.current), some r)
  | .getCurrentBatch (some _) => (.batch (.error (.thrown
      (.assertionError "failed to get current batch" (.library "IOException")))), some r)
  | .close none => (.called (.ok ()), none)
  | .close (some _) => (.called (.error (.thrown
      (.assertionError "failed to close ArrowReader" (.library "IOException")))), none)

/-- A call on a closed reader. -/
def ReaderCall.afterClose : ReaderCall → Observed T
  | .next _ => .next (.error readerClosed)
  | .getSchema _ => .schema (.error readerClosed)
  | .getCurrentBatch _ => .batch (.error readerClosed)
  | .close _ => .called (.ok ())

/-! ## calls -/

namespace Library

def start : Library T := ⟨[], [], [], [], false⟩

variable (l : Library T)

/-- A frame the program still refers to. -/
def frame? (d : Nat) : Option (FrameState T) := l.frames[d]?.filter fun f => !f.dropped

/-- A frame the program has forgotten. -/
def dropped? (d : Nat) : Option (FrameState T) := l.frames[d]?.filter fun f => f.dropped

/-- An operand, which may be null. -/
def operand? : Option Nat → Option (Option (FrameState T))
  | none => some none
  | some d => (l.frame? d).map some

/-- A call that ended like this; only one that did not throw changes
anything. -/
def reply (r : Except Stop α) (store : Library T → α → Library T) :
    Option (Observed T) × Library T :=
  match r with
  | .ok a => (some (.called (.ok ())), store l a)
  | .error e => (some (.called (.error e)), { l with halted := aborts r })

/-- A call that works in a session, and changes its context whether or not
it succeeds. -/
def replyIn (s : Nat) (sess : SessionState T) (asked : Except Stop (Outcome α × T.Ctx))
    (store : Library T → α → Library T) : Option (Observed T) × Library T :=
  match asked with
  | .error e => l.reply (.error e) store
  | .ok (o, context) =>
      { l with sessions := l.sessions.set s { sess with context := some context } }.reply
        (seen o) store

/-- Call a method of an object, if the program has it. -/
def on {ω : Type} (object : Option ω) (method : ω → Option (Observed T) × Library T) :
    Option (Observed T) × Library T :=
  match object with
  | some w => method w
  | none => (none, l)

def addFrame (runtime : Nat) (l : Library T) (plan : T.Plan) : Library T :=
  { l with frames := l.frames ++ [⟨some plan, runtime, false⟩] }

def addReader (l : Library T) (stream : Stream T) : Library T :=
  { l with readers := l.readers ++ [some ⟨stream.schema, none, stream.batches⟩] }

def setFrame (d : Nat) (f : FrameState T) : Library T := { l with frames := l.frames.set d f }

/-- One call of the API. -/
def perform (E : Engine T) : ApiCall → Option (Observed T) × Library T
  | .createRuntime =>
      l.reply (seen E.runtimeNew) fun l _ => { l with runtimes := l.runtimes ++ [true] }
  | .newSession r => l.on l.runtimes[r]? fun open_ => l.reply (newSessionOutcome E open_)
      fun l context => { l with sessions := l.sessions ++ [⟨some context, r⟩] }
  | .closeRuntime r => l.on l.runtimes[r]? fun _ =>
      l.reply (.ok ()) fun l _ => { l with runtimes := l.runtimes.set r false }
  | .sql s query => l.on l.sessions[s]? fun sess =>
      l.replyIn s sess (sqlOutcome E sess.context query) (addFrame sess.runtime)
  | .registerCsv s tableName path => l.on l.sessions[s]? fun sess =>
      l.replyIn s sess (registerOutcome E.registerCsv sess.context tableName path) fun l _ => l
  | .registerParquet s tableName path => l.on l.sessions[s]? fun sess =>
      l.replyIn s sess (registerOutcome E.registerParquet sess.context tableName path) fun l _ => l
  | .closeSession s => l.on l.sessions[s]? fun sess => l.reply (.ok ())
      fun l _ => { l with sessions := l.sessions.set s { sess with context := none } }
  | .transform d op => l.on (l.frame? d) fun f =>
      l.reply (transformOutcome E f.plan op) (addFrame f.runtime)
  | .combine d other op => l.on (l.frame? d) fun f => l.on (l.operand? other) fun o =>
      l.reply (combineOutcome E f.plan (o.map FrameState.plan) op) (addFrame f.runtime)
  | .count d => l.on (l.frame? d) fun f =>
      (some (.count (countOutcome E f.plan)), { l with halted := aborts (countOutcome E f.plan) })
  | .collect d env => l.on (l.frame? d) fun f => l.reply (collectedOutcome E f.plan env) addReader
  | .closeFrame d => l.on (l.frame? d) fun f =>
      l.reply (.ok ()) fun l _ => l.setFrame d { f with plan := none }
  | .drop d => l.on (l.frame? d) fun f => (none, l.setFrame d { f with dropped := true })
  | .clean d => l.on (l.dropped? d) fun f =>
      l.reply (.ok ()) fun l _ => l.setFrame d { f with plan := none }
  | .reader i call => l.on l.readers[i]? fun
      | none => (some call.afterClose, l)
      | some r => (some (r.call call).1, { l with readers := l.readers.set i (r.call call).2 })

/-- A step of the program.  There is none after the process is gone. -/
def step (s : Step T) : Option (Observed T) × Library T :=
  if l.halted then (none, l) else l.perform s.1 s.2

def see (s : Step T) : Option (Observed T) := (l.step s).1

def after (s : Step T) : Library T := (l.step s).2

/-! ## what the caller has to take care of -/

def runtimeOpen (r : Nat) : Bool := l.runtimes[r]? == some true

/-- The runtime an open session or frame was opened on is still open when a
method of it is called. -/
def allows : ApiCall → Bool
  | .sql s _ | .registerCsv s _ _ | .registerParquet s _ _ =>
      l.sessions[s]?.all fun sess => sess.context.isNone || l.runtimeOpen sess.runtime
  | .transform d _ | .combine d _ _ | .count d | .collect d _ =>
      (l.frame? d).all fun f => f.plan.isNone || l.runtimeOpen f.runtime
  | _ => true

end Library

/-! ## objects -/

/-- An object of the program, by the order of its creation. -/
inductive Ref where
  | runtime (r : Nat)
  | session (s : Nat)
  | frame (d : Nat)
  | reader (i : Nat)
  deriving DecidableEq, Repr

def Ref.number : Ref → Nat
  | .runtime n | .session n | .frame n | .reader n => n

/-- The objects a call names. -/
def ApiCall.refs : ApiCall → List Ref
  | .newSession r | .closeRuntime r => [.runtime r]
  | .sql s _ | .registerCsv s _ _ | .registerParquet s _ _ | .closeSession s => [.session s]
  | .combine d other _ => .frame d :: (other.map Ref.frame).toList
  | .transform d _ | .count d | .collect d _ | .closeFrame d | .drop d | .clean d => [.frame d]
  | .reader i _ => [.reader i]
  | .createRuntime => []

end DataFusionPanama
