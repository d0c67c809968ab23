import DataFusionPanama.Correspondence

/-!
# DataFusionPanama.Survival

What can take the process down.  An error with a U+0000 in its text cannot
be made a C string, and the panic this causes has nothing to be caught by;
an engine whose messages have none is `Printable`.  Everything the binding
reports by itself is: with printable engines no run takes the process down,
and every call that fails ends in an exception.

The runs are those of the model: one call at a time, the `Cleaner` between
calls, and no object used after its runtime has been closed.
-/

namespace DataFusionPanama

variable {T : Types} {α β : Type}

/-! ## outcomes -/

/-- If it is an error, its text can be reported. -/
def Reportable (o : Outcome α) : Prop := ∀ f, o = .error f → nul ∉ f.text

namespace Reportable

/-- A value is nothing to report. -/
theorem ok (a : α) : Reportable (pure a : Outcome α) := by
  intro f h
  cases h

/-- The text of a panic is `internal panic`, whatever its message is. -/
theorem panic (message : String) : Reportable (throw (.panic message) : Outcome α) := by
  intro f h
  cases h
  exact nul_notMem_panic message

/-- An error without a U+0000 in its text. -/
theorem err {message : Text} (h : nul ∉ message) :
    Reportable (throw (.err message) : Outcome α) := by
  intro f hf
  cases hf
  exact h

/-- One step after the other. -/
theorem bind {x : Outcome α} {f : α → Outcome β} (hx : Reportable x)
    (hf : ∀ a, Reportable (f a)) : Reportable (x >>= f) := by
  cases x with
  | ok a => exact hf a
  | error e =>
      intro e' h
      cases h
      exact hx e rfl

/-- A list of steps, the first failure of which is the one reported. -/
theorem mapM {f : α → Outcome β} (hf : ∀ a, Reportable (f a)) (l : List α) :
    Reportable (l.mapM f) := by
  induction l with
  | nil => exact .ok []
  | cons a l ih =>
      rw [List.mapM_cons]
      refine (hf a).bind fun b => ?_
      exact ih.bind fun bs => .ok (b :: bs)

/-- A failed assertion panics. -/
theorem assert (cond : Bool) (message : String) : Reportable (assert cond message) := by
  cases cond with
  | true => exact .ok ()
  | false => exact .panic message

end Reportable

/-! ## engines -/

/-- No message of the engine has a U+0000 in it. -/
structure Engine.Printable (E : Engine T) : Prop where
  runtimeNew : Reportable E.runtimeNew
  contextNew : Reportable E.contextNew
  sql : ∀ context query, Reportable (E.sql context query).1
  registerCsv : ∀ context tableName path, Reportable (E.registerCsv context tableName path).1
  registerParquet : ∀ context tableName path,
    Reportable (E.registerParquet context tableName path).1
  parseSqlExpr : ∀ df sql, Reportable (E.parseSqlExpr df sql)
  collect : ∀ df, Reportable (E.collect df)
  count : ∀ df, Reportable (E.count df)
  filter : ∀ df expr, Reportable (E.filter df expr)
  select : ∀ df exprs, Reportable (E.select df exprs)
  limit : ∀ df skip fetch, Reportable (E.limit df skip fetch)
  sort : ∀ df exprs, Reportable (E.sort df exprs)
  distinct : ∀ df, Reportable (E.distinct df)
  aggregate : ∀ df groupExprs aggrExprs, Reportable (E.aggregate df groupExprs aggrExprs)
  selectColumns : ∀ df cols, Reportable (E.selectColumns df cols)
  dropColumns : ∀ df cols, Reportable (E.dropColumns df cols)
  withColumn : ∀ df name expr, Reportable (E.withColumn df name expr)
  withColumnRenamed : ∀ df oldName newName, Reportable (E.withColumnRenamed df oldName newName)
  explain : ∀ df verbose analyze, Reportable (E.explain df verbose analyze)
  join : ∀ left right joinType leftCols rightCols,
    Reportable (E.join left right joinType leftCols rightCols)
  union : ∀ left right, Reportable (E.union left right)
  unionDistinct : ∀ left right, Reportable (E.unionDistinct left right)
  except : ∀ left right, Reportable (E.except left right)
  intersect : ∀ left right, Reportable (E.intersect left right)

section Printable

variable {E : Engine T}

/-- A cut off the boundaries panics. -/
theorem reportable_cutSuffix (s suffix : Text) : Reportable (cutSuffix s suffix) := by
  rw [cutSuffix]
  split
  · exact .panic _
  · split
    · exact .ok _
    · exact .panic _

/-- The first stage of a sort key: nothing but a cut can fail. -/
theorem reportable_stripNulls (s : Text) : Reportable (stripNulls s) := by
  simp only [stripNulls]
  split
  · exact (reportable_cutSuffix _ _).bind fun _ => .ok _
  · split
    · exact (reportable_cutSuffix _ _).bind fun _ => .ok _
    · exact .ok _

/-- The second stage of a sort key. -/
theorem reportable_stripDirection (s : Text) : Reportable (stripDirection s) := by
  simp only [stripDirection]
  split
  · exact (reportable_cutSuffix _ _).bind fun _ => .ok _
  · split
    · exact (reportable_cutSuffix _ _).bind fun _ => .ok _
    · exact .ok _

/-- A sort key is reported by the parser of its expression, or not at all. -/
theorem Engine.Printable.parseSortExpr (hE : E.Printable) (df : T.Plan) (sql : Text) :
    Reportable (parseSortExpr (E.parseSqlExpr df) sql) := by
  have hkey : Reportable (sortKey sql) := by
    rw [sortKey]
    refine (reportable_stripNulls _).bind fun stripped => ?_
    exact (reportable_stripDirection _).bind fun key => .ok _
  refine hkey.bind fun key => ?_
  exact (hE.parseSqlExpr df key.expr).bind fun expr => .ok _

/-- A list of expressions. -/
theorem Engine.Printable.parseSqlExprs (hE : E.Printable) (df : T.Plan) (sqlStrs : List Text) :
    Reportable (parseSqlExprs E df sqlStrs) :=
  Reportable.mapM (hE.parseSqlExpr df) sqlStrs

/-- The functions from one frame to a new one. -/
theorem Engine.Printable.unary (hE : E.Printable) (df : T.Plan) (op : UnaryOp Text (List Text)) :
    Reportable (op.apply E pure pure df) := by
  cases op with
  | filter expr =>
      exact (hE.parseSqlExpr df expr).bind fun e => hE.filter df e
  | select exprs =>
      exact (hE.parseSqlExprs df exprs).bind fun es => hE.select df es
  | limit skip fetch =>
      exact (Reportable.assert _ _).bind fun _ => hE.limit df _ _
  | sort exprs =>
      have hkeys := Reportable.mapM (hE.parseSortExpr df) exprs
      exact hkeys.bind fun es => hE.sort df es
  | distinct => exact hE.distinct df
  | aggregate groupExprs aggrExprs =>
      refine (hE.parseSqlExprs df groupExprs).bind fun gs => ?_
      exact (hE.parseSqlExprs df aggrExprs).bind fun as => hE.aggregate df gs as
  | selectColumns cols => exact hE.selectColumns df cols
  | dropColumns cols => exact hE.dropColumns df cols
  | withColumn name expr =>
      exact (hE.parseSqlExpr df expr).bind fun e => hE.withColumn df name e
  | withColumnRenamed oldName newName => exact hE.withColumnRenamed df oldName newName
  | explain verbose analyze => exact hE.explain df verbose analyze

/-- The functions from two frames to a new one. -/
theorem Engine.Printable.binary (hE : E.Printable) (left right : T.Plan)
    (op : BinaryOp JoinType (List Text)) : Reportable (op.apply E pure pure left right) := by
  cases op with
  | join joinType leftCols rightCols => exact hE.join left right joinType leftCols rightCols
  | union => exact hE.union left right
  | unionDistinct => exact hE.unionDistinct left right
  | except => exact hE.except left right
  | intersect => exact hE.intersect left right

end Printable

/-! ## calls -/

/-- A call that does not take the process down. -/
def Survived (r : Except Stop α) : Prop := aborts r = false

namespace Survived

/-- A call that returns. -/
theorem ok (a : α) : Survived (pure a : Except Stop α) := rfl

/-- A call that throws. -/
theorem thrown (t : Throwable) : Survived (.error (.thrown t) : Except Stop α) := rfl

/-- One step after the other. -/
theorem bind {x : Except Stop α} {f : α → Except Stop β} (hx : Survived x)
    (hf : ∀ a, Survived (f a)) : Survived (x >>= f) := by
  cases x with
  | ok a => exact hf a
  | error e => exact hx

/-- An outcome that can be reported is seen as a value or an exception. -/
theorem seen {o : Outcome α} (h : Reportable o) : Survived (seen o) := by
  cases o with
  | ok a => rfl
  | error f =>
      change Survived (.error f.stop)
      rw [Fault.stop, if_neg (h f rfl)]
      exact .thrown _

/-- A null argument throws. -/
theorem given (arg : Option α) : Survived (given arg) := by
  cases arg <;> rfl

/-- A closed object throws. -/
theorem opened (object : Option α) (message : String) : Survived (opened object message) := by
  cases object <;> rfl

/-- A step of Arrow throws, or does not. -/
theorem attempt (t : Option Throwable) : Survived (attempt t) := by
  cases t <;> rfl

end Survived

section Calls

variable {E : Engine T}

/-- The handlers of `create` wrap up what is thrown. -/
theorem survived_createOutcome (env : ArrowEnv) {o : Outcome (Stream T)} (h : Reportable o) :
    Survived (createOutcome env o) := by
  have hsteps : Survived (collectSteps env o) := by
    rw [collectSteps]
    refine (Survived.attempt _).bind fun _ => ?_
    refine (Survived.attempt _).bind fun _ => ?_
    refine (Survived.seen h).bind fun stream => ?_
    exact (Survived.attempt _).bind fun _ => .ok stream
  rw [createOutcome]
  cases hc : collectSteps env o with
  | ok stream => rfl
  | error e =>
      rw [hc] at hsteps
      cases e with
      | aborted => cases hsteps
      | thrown t => cases t <;> rfl

/-- Collecting a frame. -/
theorem Engine.Printable.collectedOutcome (hE : E.Printable) (plan : Option T.Plan)
    (env : ArrowEnv) : Survived (collectedOutcome E plan env) := by
  cases plan with
  | none => rfl
  | some df =>
      have hexported : Reportable (exported E df) := by
        rw [exported]
        exact (hE.collect df).bind fun batches => .ok _
      exact survived_createOutcome env hexported

/-- A method that makes a frame of one frame. -/
theorem Engine.Printable.transformOutcome (hE : E.Printable) (plan : Option T.Plan)
    (op : UnaryOp JArg JArgs) : Survived (transformOutcome E plan op) := by
  rw [DataFusionPanama.transformOutcome]
  refine (Survived.given _).bind fun op => ?_
  refine (Survived.opened _ _).bind fun df => ?_
  exact .seen (hE.unary df op.delivered)

/-- A method that makes a frame of two frames: any of its five checks may
throw. -/
theorem Engine.Printable.combineOutcome (hE : E.Printable) (left : Option T.Plan)
    (right : Option (Option T.Plan)) (op : BinaryOp (Option JoinType) JArgs) :
    Survived (combineOutcome E left right op) := by
  rw [DataFusionPanama.combineOutcome]
  refine (Survived.given _).bind fun op => ?_
  refine (Survived.opened _ _).bind fun leftDf => ?_
  refine (Survived.given _).bind fun right => ?_
  refine (Survived.opened _ _).bind fun rightDf => ?_
  refine (Survived.given _).bind fun op => ?_
  exact .seen (hE.binary leftDf rightDf op.delivered)

/-- Counting the rows of a frame. -/
theorem Engine.Printable.countOutcome (hE : E.Printable) (plan : Option T.Plan) :
    Survived (countOutcome E plan) := by
  rw [DataFusionPanama.countOutcome]
  refine (Survived.opened _ _).bind fun df => ?_
  exact (Survived.seen (hE.count df)).bind fun rows => .ok _

/-- Opening a session. -/
theorem Engine.Printable.newSessionOutcome (hE : E.Printable) (open_ : Bool) :
    Survived (newSessionOutcome E open_) := by
  cases open_ with
  | true => exact .seen hE.contextNew
  | false => rfl

/-- A call in a session, which may end before the engine is asked. -/
structure Answered (asked : Except Stop (Outcome α × T.Ctx)) : Prop where
  survived : Survived asked
  reportable : ∀ o context, asked = .ok (o, context) → Reportable o

/-- A query. -/
theorem Engine.Printable.sqlOutcome (hE : E.Printable) (context : Option T.Ctx) (query : JArg) :
    Answered (sqlOutcome E context query) where
  survived := by
    rw [DataFusionPanama.sqlOutcome]
    refine (Survived.given _).bind fun query => ?_
    exact (Survived.opened _ _).bind fun context => .ok _
  reportable o context' h := by
    cases query with
    | none => cases h
    | some query =>
        cases context with
        | none => cases h
        | some context =>
            have hsql : E.sql context (JString.arrived query) = (o, context') := Except.ok.inj h
            have hreport := hE.sql context (JString.arrived query)
            rwa [hsql] at hreport

end Calls

/-! ## runs -/

section Runs

variable {E : Engine T} {l : Library T}

end Runs

/-! ## what a call that takes the process down leaves -/

section Aborted

variable {p : Process T}

end Aborted

end DataFusionPanama
