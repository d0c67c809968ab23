import DataFusionPanama.Base.Store
import DataFusionPanama.Base.Utf

/-!
# DataFusionPanama.Engine

What the native shim calls but does not define: DataFusion and Tokio.  The
engine is a parameter.  `Types` names its value types (`DataFrame` is
`Plan`, `SessionContext` is `Ctx`), and `Engine` its operations, each a
function of the operands it is given; an operation may fail with an `Err`
of any text or panic.

Nothing below assumes anything of an engine.  Results about runs in which
every single operation may end any way at all quantify over a *different*
engine at every step; results about what a program computes fix one engine
for the whole program.

The engine of a step is DataFusion as it is then, stored data included.
Executing a plan that writes (the count of an `INSERT`, the collect of a
`COPY`) therefore shows in no state, only in that later steps have another
engine.  A result that compares two runs gives the calls they share the same
engine in both: it is about runs whose difference writes nothing that the
shared calls could notice.
-/

namespace DataFusionPanama

/-- How a Rust body fails: an `Err`, with its `Display` text, or a panic. -/
inductive Fault where
  | err (message : Text)
  | panic (message : String)
  deriving DecidableEq, Repr

/-- The outcome of a Rust body. -/
abbrev Outcome := Except Fault

/-- `assert!(cond, msg)`. -/
def assert (cond : Bool) (msg : String) : Outcome Unit :=
  if cond then pure () else throw (.panic msg)

/-- `assert!(!ptr.is_null(), msg)`. -/
def assertNotNull (ptr : Addr) (msg : String) : Outcome Unit := assert (ptr != 0) msg

/-- The assertion lets every address but null pass. -/
theorem assertNotNull_of_ne {ptr : Addr} (h : ptr ≠ 0) (msg : String) :
    assertNotNull ptr msg = pure () := by
  rw [assertNotNull, assert, if_pos (by simpa using h)]

/-- DataFusion's `JoinType`. -/
inductive JoinType where
  | inner | left | right | full | leftSemi | rightSemi | leftAnti | rightAnti
  deriving DecidableEq, Repr

/-- DataFusion's `SortExpr`: an expression with its direction and null
ordering. -/
structure SortExpr (Expr : Type) where
  expr : Expr
  asc : Bool
  nullsFirst : Bool
  deriving DecidableEq, Repr

/-- The engine's value types. -/
structure Types where
  /-- `DataFrame`: a logical plan with the session state it was planned in. -/
  Plan : Type
  Expr : Type
  /-- `SessionContext`. -/
  Ctx : Type
  Schema : Type
  /-- `RecordBatch`. -/
  Batch : Type

/-- The engine's operations.  `count` and `collect` execute a plan; what the
execution writes is in the engines of later steps. -/
structure Engine (T : Types) where
  /-- `tokio::runtime::Runtime::new` -/
  runtimeNew : Outcome Unit
  /-- `SessionContext::new` -/
  contextNew : Outcome T.Ctx
  /-- `SessionContext::sql`; a statement may change the session. -/
  sql : T.Ctx → Text → Outcome T.Plan × T.Ctx
  registerCsv : T.Ctx → Text → Text → Outcome Unit × T.Ctx
  registerParquet : T.Ctx → Text → Text → Outcome Unit × T.Ctx
  parseSqlExpr : T.Plan → Text → Outcome T.Expr
  schema : T.Plan → T.Schema
  collect : T.Plan → Outcome (List T.Batch)
  count : T.Plan → Outcome Nat
  filter : T.Plan → T.Expr → Outcome T.Plan
  select : T.Plan → List T.Expr → Outcome T.Plan
  limit : T.Plan → Nat → Option Nat → Outcome T.Plan
  sort : T.Plan → List (SortExpr T.Expr) → Outcome T.Plan
  distinct : T.Plan → Outcome T.Plan
  aggregate : T.Plan → List T.Expr → List T.Expr → Outcome T.Plan
  selectColumns : T.Plan → List Text → Outcome T.Plan
  dropColumns : T.Plan → List Text → Outcome T.Plan
  withColumn : T.Plan → Text → T.Expr → Outcome T.Plan
  withColumnRenamed : T.Plan → Text → Text → Outcome T.Plan
  explain : T.Plan → Bool → Bool → Outcome T.Plan
  /-- `DataFrame::join` with no extra filter. -/
  join : T.Plan → T.Plan → JoinType → List Text → List Text → Outcome T.Plan
  union : T.Plan → T.Plan → Outcome T.Plan
  unionDistinct : T.Plan → T.Plan → Outcome T.Plan
  except : T.Plan → T.Plan → Outcome T.Plan
  intersect : T.Plan → T.Plan → Outcome T.Plan
  /-- The text of a `Utf8Error`. -/
  utf8Error : List UInt8 → Text
  /- What a read through a dangling pointer yields, where it yields
  anything.  Rust gives it no meaning: it may as well crash the process or
  corrupt memory, and an `Outcome` is neither.  Those ends are left out, and
  what is proved of stale pointers is when one is passed. -/
  danglingRuntime : Outcome Unit
  danglingContext : Outcome T.Ctx
  danglingFrame : Outcome T.Plan
  danglingString : Outcome Text
  danglingPointers : Outcome (List Addr)
  danglingResult : Addr × Option CString

/-- Map an integer to DataFusion's `JoinType`. -/
def joinTypeFromInt (value : Int) : Outcome JoinType :=
  match value with
  | 0 => pure .inner
  | 1 => pure .left
  | 2 => pure .right
  | 3 => pure .full
  | 4 => pure .leftSemi
  | 5 => pure .rightSemi
  | 6 => pure .leftAnti
  | 7 => pure .rightAnti
  | _ => throw (.err (s!"invalid join type: {value}".toList))

/-! ## a small engine

DataFusion plans lazily: an operation on valid input adds a node to the
logical plan.  `planEngine` does just that, on queries that yield one row
like `SELECT 1`; it is what the model is run on. -/

inductive LogicalPlan where
  | query (sql : Text)
  | filter (input : LogicalPlan) (predicate : Text)
  | projection (input : LogicalPlan) (exprs : List Text)
  | limit (input : LogicalPlan) (skip : Nat) (fetch : Option Nat)
  | sort (input : LogicalPlan) (exprs : List (SortExpr Text))
  | distinct (input : LogicalPlan)
  | aggregate (input : LogicalPlan) (group aggr : List Text)
  | columns (input : LogicalPlan) (keep : Bool) (names : List Text)
  | withColumn (input : LogicalPlan) (name expr : Text)
  | renamed (input : LogicalPlan) (old new : Text)
  | explain (input : LogicalPlan) (verbose analyze : Bool)
  | join (left right : LogicalPlan) (joinType : JoinType) (leftCols rightCols : List Text)
  | union (left right : LogicalPlan)
  | unionDistinct (left right : LogicalPlan)
  | except (left right : LogicalPlan)
  | intersect (left right : LogicalPlan)
  deriving DecidableEq, Repr

/-- The number of rows, where it follows from the inputs' alone. -/
def LogicalPlan.rows : LogicalPlan → Nat
  | .query _ => 1
  | .limit p skip fetch => match fetch with
      | some k => min k (p.rows - skip)
      | none => p.rows - skip
  | .filter p _ | .projection p _ | .sort p _ | .distinct p | .aggregate p _ _ | .columns p _ _
  | .withColumn p _ _ | .renamed p _ _ | .explain p _ _ => p.rows
  | .union l r => l.rows + r.rows
  | .join l _ _ _ _ | .unionDistinct l _ | .except l _ | .intersect l _ => l.rows

/-- A batch is its number of rows, a context its registered tables. -/
abbrev planTypes : Types where
  Plan := LogicalPlan
  Expr := Text
  Ctx := List (Text × Text)
  Schema := Unit
  Batch := Nat

def planEngine : Engine planTypes where
  runtimeNew := pure ()
  contextNew := pure []
  sql ctx query :=
    (if query = [] then throw (.err "No SQL statements were provided in the query string".toList)
      else pure (.query query), ctx)
  registerCsv ctx name path := (pure (), ctx ++ [(name, path)])
  registerParquet ctx name path := (pure (), ctx ++ [(name, path)])
  parseSqlExpr _ expr := if expr = [] then throw (.err "SQL error: EOF".toList) else pure expr
  schema _ := ()
  collect df := pure [df.rows]
  count df := pure df.rows
  filter df e := pure (.filter df e)
  select df es := pure (.projection df es)
  limit df skip fetch := pure (.limit df skip fetch)
  sort df es := pure (.sort df es)
  distinct df := pure (.distinct df)
  aggregate df g a := pure (.aggregate df g a)
  selectColumns df cs := pure (.columns df true cs)
  dropColumns df cs := pure (.columns df false cs)
  withColumn df name e := pure (.withColumn df name e)
  withColumnRenamed df old new := pure (.renamed df old new)
  explain df v a := pure (.explain df v a)
  join l r jt lc rc := pure (.join l r jt lc rc)
  union l r := pure (.union l r)
  unionDistinct l r := pure (.unionDistinct l r)
  except l r := pure (.except l r)
  intersect l r := pure (.intersect l r)
  utf8Error _ := "invalid utf-8 sequence".toList
  danglingRuntime := throw (.panic "runtime has been dropped")
  danglingContext := throw (.panic "session has been dropped")
  danglingFrame := throw (.panic "dataframe has been dropped")
  danglingString := throw (.panic "string has been dropped")
  danglingPointers := throw (.panic "array has been dropped")
  danglingResult := (0, none)

end DataFusionPanama
