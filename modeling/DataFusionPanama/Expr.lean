import Mathlib.Logic.Function.Basic
import DataFusionPanama.Java.NativeLibrary
import DataFusionPanama.Native.Spec

/-!
# DataFusionPanama.Expr

Straight-line programs over the native API, and what they mean without
handles.  A program binds sessions, frames and streams to variables.  Its
meaning binds the same variables to expressions: how a session came about
and how a frame was built.  There is no heap in it, freeing a variable only
forgets it, and a count or a batch is a function of an expression.

A statement on a variable that is not bound is one the program does not
contain; so nothing is used after it has been freed, or after the operation
that was to build it has failed.
-/

namespace DataFusionPanama

variable {T : Types} {α : Type}

/-! ## programs -/

/-- An argument at the boundary, with the strings that are stored behind it. -/
structure Stored (Arg Strings : Type) (At : Mem → Arg → Strings → Prop) where
  mem : Mem
  arg : Arg
  strings : Strings
  stored : At mem arg strings

abbrev StoredText := Stored Addr CString CStrAt

/-- The name and the path of a table. -/
abbrev StoredTable := Stored (Addr × Addr) (CString × CString) fun mem p s =>
  CStrAt mem p.1 s.1 ∧ CStrAt mem p.2 s.2

abbrev StoredUnary := Stored (UnaryOp Addr StrArray) (UnaryOp CString (List CString)) UnaryOp.Stored

abbrev StoredBinary := Stored (BinaryOp Int StrArray) (BinaryOp Int (List CString)) BinaryOp.Stored

/-- The file formats a table can be registered from. -/
inductive Format where
  | csv | parquet
  deriving DecidableEq, Repr

def Format.downcall : Format → Addr → Addr → Addr → Addr → Downcall
  | .csv => .sessionRegisterCsv
  | .parquet => .sessionRegisterParquet

def Format.register (E : Engine T) : Format → T.Ctx → Text → Text → Outcome Unit × T.Ctx
  | .csv => E.registerCsv
  | .parquet => E.registerParquet

/-- A statement; sessions, frames and streams each have their own variables. -/
inductive Stmt where
  | newSession (target : Nat)
  | register (format : Format) (session : Nat) (table : StoredTable)
  | sql (target session : Nat) (query : StoredText)
  | unary (target frame : Nat) (op : StoredUnary)
  | binary (target left right : Nat) (op : StoredBinary)
  | count (frame : Nat)
  | collect (target frame : Nat)
  | schema (stream : Nat)
  | next (stream : Nat)
  | freeSession (session : Nat)
  | freeFrame (frame : Nat)
  | freeRuntime

/-- What a program sees. -/
inductive Output (T : Types) where
  | called (r : Except Stop Unit)
  | count (r : Except Stop Nat)
  | schema (s : Option T.Schema)
  | batch (b : Option T.Batch)

/-- How a fault is seen: as an exception with its text, or not at all. -/
def Fault.stop (f : Fault) : Stop :=
  if nul ∈ f.text then .aborted else .thrown (.dataFusionException (encodeUtf16 f.text))

/-- How the outcome of a native function is seen. -/
def seen (o : Outcome α) : Except Stop α := o.mapError Fault.stop

/-! ## expressions -/

/-- How a session came about. -/
inductive SessionExpr where
  | new
  | sql (session : SessionExpr) (query : CString)
  | register (format : Format) (session : SessionExpr) (table : CString × CString)

/-- How a frame was built. -/
inductive FrameExpr where
  | sql (session : SessionExpr) (query : CString)
  | unary (op : UnaryOp CString (List CString)) (frame : FrameExpr)
  | binary (op : BinaryOp Int (List CString)) (left right : FrameExpr)

/-- A query in a context: the plan, and the context after it. -/
def sqlIn (E : Engine T) (context : T.Ctx) (query : CString) : Outcome T.Plan × T.Ctx :=
  match query.toStr E with
  | .ok text => E.sql context text
  | .error f => (.error f, context)

/-- A registration in a context. -/
def registerIn (E : Engine T) (format : Format) (context : T.Ctx) (table : CString × CString) :
    Outcome Unit × T.Ctx :=
  match table.1.toStr E, table.2.toStr E with
  | .ok name, .ok path => format.register E context name path
  | .error f, _ => (.error f, context)
  | .ok _, .error f => (.error f, context)

section Contexts

variable {E : Engine T} {mem : Mem} {n : Native T} {runtime session : Addr} {ctx : T.Ctx}

/-- `session_sql` on live handles: the context is replaced, then the frame is
made. -/
theorem exec_sessionSql_eq {sql : Addr} {query : CString}
    (hrt : n.boxes.get? runtime = some .runtime)
    (hsess : n.boxes.get? session = some (.session ctx)) (hs : CStrAt mem sql query) :
    (sessionSql E mem runtime session sql).exec n = (makeFrame (sqlIn E ctx query).1).exec
      { n with boxes := n.boxes.put session (.session (sqlIn E ctx query).2) } := by
  rw [exec_sessionSql hrt hsess hs, exec_bind_lift, sqlIn]
  cases query.toStr E with
  | error e =>
      rw [Store.put_of_get? hsess]
      rfl
  | ok text =>
      dsimp only
      rw [Prog.exec_bind, exec_inSession hsess]
      cases (E.sql ctx text).1 <;> rfl

/-- A registration on live handles. -/
theorem exec_registerTable_eq (format : Format) {tableName path : Addr}
    {table : CString × CString} (hrt : n.boxes.get? runtime = some .runtime)
    (hsess : n.boxes.get? session = some (.session ctx)) (hn : CStrAt mem tableName table.1)
    (hp : CStrAt mem path table.2) :
    (registerTable E mem (format.register E) runtime session tableName path).exec n =
      ((registerIn E format ctx table).1.map fun _ => 0,
        { n with boxes := n.boxes.put session (.session (registerIn E format ctx table).2) }) := by
  rw [exec_registerTable hrt hsess hn hp, exec_bind_lift, registerIn]
  cases table.1.toStr E with
  | error e =>
      dsimp only
      rw [Store.put_of_get? hsess]
      rfl
  | ok name =>
      dsimp only
      rw [exec_bind_lift]
      cases table.2.toStr E with
      | error e =>
          dsimp only
          rw [Store.put_of_get? hsess]
          rfl
      | ok pathName =>
          dsimp only
          rw [Prog.exec_bind, exec_inSession hsess]
          cases (format.register E ctx name pathName).1 <;> rfl

end Contexts

/-- The context of a session. -/
def SessionExpr.eval (E : Engine T) : SessionExpr → Outcome T.Ctx
  | .new => E.contextNew
  | .sql s query => do return (sqlIn E (← s.eval E) query).2
  | .register format s table => do return (registerIn E format (← s.eval E) table).2

/-- The plan of a frame. -/
def FrameExpr.eval (E : Engine T) : FrameExpr → Outcome T.Plan
  | .sql s query => do (sqlIn E (← s.eval E) query).1
  | .unary op f => do op.eval E (← f.eval E)
  | .binary op l r => do op.eval E (← l.eval E) (← r.eval E)

def FrameExpr.count (E : Engine T) (f : FrameExpr) : Outcome Nat := do E.count (← f.eval E)

/-- The stream a frame collects to. -/
def FrameExpr.collect (E : Engine T) (f : FrameExpr) : Outcome (Stream T) := do
  let df ← f.eval E
  return ⟨E.schema df, ← E.collect df⟩

/-! ## the meaning of a program -/

/-- A statement that calls into the engine. -/
def Stmt.needsRuntime : Stmt → Bool
  | .newSession _ | .register .. | .sql .. | .unary .. | .binary .. | .count _ | .collect .. => true
  | .schema _ | .next _ | .freeSession _ | .freeFrame _ | .freeRuntime => false

/-- The process does not survive the call. -/
def aborts : Except Stop α → Bool
  | .error stop => decide (stop = .aborted)
  | .ok _ => false

/-- What is seen of a call whose value is a handle. -/
def Output.ofCall (r : Except Stop α) : Output T := .called (r.map fun _ => ())

/-- What the variables of a program stand for. -/
structure Meaning (T : Types) where
  alive : Bool
  sessions : Nat → Option SessionExpr
  frames : Nat → Option FrameExpr
  /-- The frame a stream was collected from, and how much of it has been read. -/
  streams : Nat → Option (FrameExpr × Nat)
  outputs : List (Output T)
  halted : Bool

namespace Meaning

def start : Meaning T := ⟨true, fun _ => none, fun _ => none, fun _ => none, [], false⟩

variable (E : Engine T) (m : Meaning T)

def see (r : Except Stop α) (output : Output T) : Meaning T :=
  { m with outputs := m.outputs ++ [output], halted := aborts r }

/-- The program sees the outcome of a call. -/
def called (o : Outcome α) : Meaning T := m.see (seen o) (.ofCall (seen o))

def bindSession (x : Nat) (s : SessionExpr) : Meaning T :=
  { m.called (s.eval E) with
    sessions := Function.update m.sessions x ((s.eval E).toOption.map fun _ => s) }

def bindFrame (x : Nat) (f : FrameExpr) : Meaning T :=
  { m.called (f.eval E) with
    frames := Function.update m.frames x ((f.eval E).toOption.map fun _ => f) }

/-- A statement on what is bound. -/
def exec : Stmt → Meaning T
  | .newSession x => m.bindSession E x .new
  | .register format x table => match m.sessions x with
      | none => m
      | some s =>
          { m.called (do (registerIn E format (← s.eval E) table.strings).1) with
            sessions := Function.update m.sessions x (some (.register format s table.strings)) }
  | .sql x y query => match m.sessions y with
      | none => m
      | some s =>
          { m.bindFrame E x (.sql s query.strings) with
            sessions := Function.update m.sessions y (some (.sql s query.strings)) }
  | .unary x y op => match m.frames y with
      | none => m
      | some f => m.bindFrame E x (.unary op.strings f)
  | .binary x y z op => match m.frames y, m.frames z with
      | some l, some r => m.bindFrame E x (.binary op.strings l r)
      | _, _ => m
  | .count x => match m.frames x with
      | none => m
      | some f => m.see (seen (f.count E)) (.count (seen (f.count E)))
  | .collect x y => match m.frames y with
      | none => m
      | some f =>
          { m.called (f.collect E) with
            streams := Function.update m.streams x ((f.collect E).toOption.map fun _ => (f, 0)) }
  | .schema x => match m.streams x with
      | none => m
      | some (f, _) =>
          { m with outputs := m.outputs ++ [.schema ((f.collect E).toOption.map Stream.schema)] }
  | .next x => match m.streams x with
      | none => m
      | some (f, read) =>
          { m with
            outputs := m.outputs ++ [.batch ((f.collect E).toOption.bind fun s => s.batches[read]?)]
            streams := Function.update m.streams x (some (f, read + 1)) }
  | .freeSession x => { m with sessions := Function.update m.sessions x none }
  | .freeFrame x => { m with frames := Function.update m.frames x none }
  | .freeRuntime => { m with alive := false }

def step (s : Stmt) : Meaning T :=
  if m.halted || s.needsRuntime && !m.alive then m else m.exec E s

end Meaning

end DataFusionPanama
