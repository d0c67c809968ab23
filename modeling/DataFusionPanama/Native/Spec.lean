import DataFusionPanama.Native.Strings

/-!
# DataFusionPanama.Native.Spec

What the exported functions compute, without addresses.  `UnaryOp.apply`
and `BinaryOp.apply` are the functions of the API as functions of plans and
strings; they say nothing about pointers, boxes or null checks.  The
`exec_*` theorems connect them to the bodies: on live handles and
well-formed string arguments a body computes exactly that function of the
plans behind its handles, and boxes the answer.

Everything a body needs of its string arguments is what `Rel` carries from
one representation to the other, so a caller's strings, the C strings in
memory and the texts the engine sees are three instances of one lemma.
-/

namespace DataFusionPanama

variable {T : Types} {Str Strs Str' Strs' Join : Type}

/-! ## the functions of the API -/

/-- What a function from one frame to a new one computes, given a way to
read its strings. -/
def UnaryOp.apply (E : Engine T) (str : Str → Outcome Text) (strs : Strs → Outcome (List Text))
    (df : T.Plan) : UnaryOp Str Strs → Outcome T.Plan
  | .filter expr => do E.filter df (← E.parseSqlExpr df (← str expr))
  | .select exprs => do E.select df (← parseSqlExprs E df (← strs exprs))
  | .limit skip fetch => do
      assert (0 ≤ skip) "skip must not be negative"
      E.limit df skip.toNat (if fetch < 0 then none else some fetch.toNat)
  | .sort exprs => do E.sort df (← (← strs exprs).mapM (parseSortExpr (E.parseSqlExpr df)))
  | .distinct => E.distinct df
  | .aggregate groupExprs aggrExprs => do
      let groupStrs ← strs groupExprs
      let aggrStrs ← strs aggrExprs
      E.aggregate df (← parseSqlExprs E df groupStrs) (← parseSqlExprs E df aggrStrs)
  | .selectColumns cols => do E.selectColumns df (← strs cols)
  | .dropColumns cols => do E.dropColumns df (← strs cols)
  | .withColumn name expr => do
      let nameStr ← str name
      E.withColumn df nameStr (← E.parseSqlExpr df (← str expr))
  | .withColumnRenamed oldName newName => do
      let oldStr ← str oldName
      E.withColumnRenamed df oldStr (← str newName)
  | .explain verbose analyze => E.explain df verbose analyze

/-- What a function from two frames to a new one computes. -/
def BinaryOp.apply (E : Engine T) (join : Join → Outcome JoinType)
    (strs : Strs → Outcome (List Text)) (left right : T.Plan) : BinaryOp Join Strs → Outcome T.Plan
  | .join joinType leftCols rightCols => do
      let jt ← join joinType
      let lCols ← strs leftCols
      E.join left right jt lCols (← strs rightCols)
  | .union => E.union left right
  | .unionDistinct => E.unionDistinct left right
  | .except => E.except left right
  | .intersect => E.intersect left right

/-! ## same function, other arguments -/

def UnaryOp.map (f : Str → Str') (g : Strs → Strs') : UnaryOp Str Strs → UnaryOp Str' Strs'
  | .filter expr => .filter (f expr)
  | .select exprs => .select (g exprs)
  | .limit skip fetch => .limit skip fetch
  | .sort exprs => .sort (g exprs)
  | .distinct => .distinct
  | .aggregate groupExprs aggrExprs => .aggregate (g groupExprs) (g aggrExprs)
  | .selectColumns cols => .selectColumns (g cols)
  | .dropColumns cols => .dropColumns (g cols)
  | .withColumn name expr => .withColumn (f name) (f expr)
  | .withColumnRenamed oldName newName => .withColumnRenamed (f oldName) (f newName)
  | .explain verbose analyze => .explain verbose analyze

def BinaryOp.map {Join' : Type} (j : Join → Join') (g : Strs → Strs') :
    BinaryOp Join Strs → BinaryOp Join' Strs'
  | .join joinType leftCols rightCols => .join (j joinType) (g leftCols) (g rightCols)
  | .union => .union
  | .unionDistinct => .unionDistinct
  | .except => .except
  | .intersect => .intersect

/-- Reading mapped strings is reading the strings mapped. -/
theorem UnaryOp.apply_map (E : Engine T) (f : Str → Str') (g : Strs → Strs')
    (str : Str' → Outcome Text) (strs : Strs' → Outcome (List Text)) (df : T.Plan)
    (op : UnaryOp Str Strs) :
    (op.map f g).apply E str strs df = op.apply E (str ∘ f) (strs ∘ g) df := by
  cases op <;> rfl

/-- The same for a function of two frames. -/
theorem BinaryOp.apply_map {Join' : Type} (E : Engine T) (j : Join → Join') (g : Strs → Strs')
    (join : Join' → Outcome JoinType) (strs : Strs' → Outcome (List Text)) (left right : T.Plan)
    (op : BinaryOp Join Strs) :
    (op.map j g).apply E join strs left right = op.apply E (join ∘ j) (strs ∘ g) left right := by
  cases op <;> rfl

def UnaryOp.Rel (R : Str → Str' → Prop) (S : Strs → Strs' → Prop) :
    UnaryOp Str Strs → UnaryOp Str' Strs' → Prop
  | .filter e, .filter e' => R e e'
  | .select es, .select es' => S es es'
  | .limit skip fetch, .limit skip' fetch' => skip = skip' ∧ fetch = fetch'
  | .sort es, .sort es' => S es es'
  | .distinct, .distinct => True
  | .aggregate g a, .aggregate g' a' => S g g' ∧ S a a'
  | .selectColumns cs, .selectColumns cs' => S cs cs'
  | .dropColumns cs, .dropColumns cs' => S cs cs'
  | .withColumn n e, .withColumn n' e' => R n n' ∧ R e e'
  | .withColumnRenamed o n, .withColumnRenamed o' n' => R o o' ∧ R n n'
  | .explain v a, .explain v' a' => v = v' ∧ a = a'
  | _, _ => False

def BinaryOp.Rel (S : Strs → Strs' → Prop) : BinaryOp Join Strs → BinaryOp Join Strs' → Prop
  | .join jt l r, .join jt' l' r' => jt = jt' ∧ S l l' ∧ S r r'
  | .union, .union => True
  | .unionDistinct, .unionDistinct => True
  | .except, .except => True
  | .intersect, .intersect => True
  | _, _ => False

/-- To be related to a mapped call is to be related to the call by the
mapping. -/
theorem UnaryOp.rel_map {Str'' Strs'' : Type} {R : Str → Str'' → Prop} {S : Strs → Strs'' → Prop}
    {f : Str' → Str''} {g : Strs' → Strs''} {op : UnaryOp Str Strs} {op' : UnaryOp Str' Strs'} :
    op.Rel R S (op'.map f g) ↔ op.Rel (fun a b => R a (f b)) (fun a b => S a (g b)) op' := by
  cases op <;> cases op' <;> exact Iff.rfl

section Rel

variable {R : Str → Str' → Prop} {S : Strs → Strs' → Prop}

/-- Arguments related one way are related any weaker way. -/
theorem UnaryOp.Rel.imp {R' : Str → Str' → Prop} {S' : Strs → Strs' → Prop} {op : UnaryOp Str Strs}
    {op' : UnaryOp Str' Strs'} (h : op.Rel R S op') (hR : ∀ a b, R a b → R' a b)
    (hS : ∀ a b, S a b → S' a b) : op.Rel R' S' op' := by
  cases op <;> cases op' <;> try contradiction
  case filter => exact hR _ _ h
  case select | sort | selectColumns | dropColumns => exact hS _ _ h
  case limit | explain => exact h
  case distinct => trivial
  case aggregate => exact ⟨hS _ _ h.1, hS _ _ h.2⟩
  case withColumn | withColumnRenamed => exact ⟨hR _ _ h.1, hR _ _ h.2⟩

/-- A function computes the same from related arguments that read the
same. -/
theorem UnaryOp.Rel.apply_eq {op : UnaryOp Str Strs} {op' : UnaryOp Str' Strs'} (E : Engine T)
    {str : Str → Outcome Text} {str' : Str' → Outcome Text} {strs : Strs → Outcome (List Text)}
    {strs' : Strs' → Outcome (List Text)} (df : T.Plan) (h : op.Rel R S op')
    (hR : ∀ a b, R a b → str a = str' b) (hS : ∀ a b, S a b → strs a = strs' b) :
    op.apply E str strs df = op'.apply E str' strs' df := by
  cases op <;> cases op' <;> try contradiction
  case filter => rw [apply, apply, hR _ _ h]
  case select => rw [apply, apply, hS _ _ h]
  case limit => rw [h.1, h.2]; rfl
  case sort => rw [apply, apply, hS _ _ h]
  case distinct => rfl
  case aggregate => rw [apply, apply, hS _ _ h.1, hS _ _ h.2]
  case selectColumns => rw [apply, apply, hS _ _ h]
  case dropColumns => rw [apply, apply, hS _ _ h]
  case withColumn => rw [apply, apply, hR _ _ h.1, hR _ _ h.2]
  case withColumnRenamed => rw [apply, apply, hR _ _ h.1, hR _ _ h.2]
  case explain => rw [h.1, h.2]; rfl

/-- The same for a function of two frames. -/
theorem BinaryOp.Rel.apply_eq {op : BinaryOp Join Strs} {op' : BinaryOp Join Strs'}
    (E : Engine T) {join : Join → Outcome JoinType} {strs : Strs → Outcome (List Text)}
    {strs' : Strs' → Outcome (List Text)} (left right : T.Plan) (h : op.Rel S op')
    (hS : ∀ a b, S a b → strs a = strs' b) :
    op.apply E join strs left right = op'.apply E join strs' left right := by
  cases op <;> cases op' <;> try contradiction
  case join => rw [apply, apply, h.1, hS _ _ h.2.1, hS _ _ h.2.2]
  all_goals rfl

end Rel

/-! ## bodies on live handles -/

/-- The last two lines of every function that makes an object. -/
def makeObj {β : Type} (wrap : β → Obj T) (o : Outcome β) : FfiM T Addr := do
  let b ← lift o
  intoRaw (wrap b)

abbrev makeFrame (o : Outcome T.Plan) : FfiM T Addr := makeObj .dataframe o

/-- An object that could be made is boxed. -/
theorem exec_makeObj_ok {β : Type} (wrap : β → Obj T) (b : β) (n : Native T) :
    (makeObj wrap (.ok b)).exec n = (.ok n.next, n.box (wrap b)) := rfl

/-- One that could not is not, and the state is as it was. -/
theorem exec_makeObj_error {β : Type} (wrap : β → Obj T) (e : Fault) (n : Native T) :
    (makeObj wrap (.error e)).exec n = (.error e, n) := rfl

/-- A step that only looks at the state. -/
theorem exec_bind_reads {α β : Type} (g : Native T → Outcome α) (f : α → FfiM T β) (n : Native T) :
    ((Prog.reads g : FfiM T α) >>= f).exec n =
      match g n with
      | .ok a => (f a).exec n
      | .error e => (.error e, n) := by
  rw [Prog.exec_bind, Prog.exec_reads]
  cases g n <;> rfl

/-- A step that does not even look. -/
theorem exec_bind_lift {α β : Type} (o : Outcome α) (f : α → FfiM T β) (n : Native T) :
    ((lift o : FfiM T α) >>= f).exec n =
      match o with
      | .ok a => (f a).exec n
      | .error e => (.error e, n) := exec_bind_reads (fun _ => o) f n

/-- A check that passes. -/
@[simp] theorem exec_bind_lift_pure {α β : Type} (a : α) (f : α → FfiM T β) (n : Native T) :
    ((lift (pure a) : FfiM T α) >>= f).exec n = (f a).exec n := exec_bind_lift (.ok a) f n

section Live

variable {E : Engine T} {mem : Mem} {n : Native T} {runtime session dataframe left right : Addr}
  {ctx : T.Ctx} {df leftDf rightDf : T.Plan}

/-- No box is at the null address. -/
private theorem ne_null_of_box {p : Addr} {o : Obj T} (h : n.boxes.get? p = some o) : p ≠ 0 := by
  rintro rfl
  contradiction

/-- The null check of an address that is not null. -/
theorem exec_assertNotNull {β : Type} {p : Addr} {msg : String} {f : Unit → FfiM T β}
    (h : p ≠ 0) : ((lift (assertNotNull p msg) : FfiM T Unit) >>= f).exec n = (f ()).exec n := by
  rw [assertNotNull_of_ne h, exec_bind_lift_pure]

/-- A runtime behind its pointer. -/
theorem exec_derefRuntime {β : Type} {f : Unit → FfiM T β}
    (h : n.boxes.get? runtime = some .runtime) :
    (derefRuntime E runtime >>= f).exec n = (f ()).exec n := by
  apply Prog.exec_bind_ok
  rw [derefRuntime, Prog.exec_reads, runtimeAt, h]
  rfl

theorem exec_derefSession {β : Type} {f : T.Ctx → FfiM T β}
    (h : n.boxes.get? session = some (.session ctx)) :
    (derefSession E session >>= f).exec n = (f ctx).exec n := by
  apply Prog.exec_bind_ok
  rw [derefSession, Prog.exec_reads, contextAt, h]
  rfl

theorem exec_derefFrame {β : Type} {f : T.Plan → FfiM T β}
    (h : n.boxes.get? dataframe = some (.dataframe df)) :
    (derefFrame E dataframe >>= f).exec n = (f df).exec n := by
  apply Prog.exec_bind_ok
  rw [derefFrame, Prog.exec_reads, planAt, h]
  rfl

/-- A unary function on live handles: its checks, its operation, its box. -/
theorem exec_unaryFrame {checks : Outcome Unit} {op : T.Plan → Outcome T.Plan}
    (hrt : n.boxes.get? runtime = some .runtime)
    (hdf : n.boxes.get? dataframe = some (.dataframe df)) :
    (unaryFrame E checks op runtime dataframe).exec n =
      (makeFrame (do checks; op df)).exec n := by
  rw [unaryFrame, exec_assertNotNull (ne_null_of_box hrt), exec_assertNotNull (ne_null_of_box hdf),
    exec_bind_lift]
  cases checks with
  | error e => rfl
  | ok _ =>
      dsimp only
      rw [exec_derefRuntime hrt, exec_derefFrame hdf]
      rfl

/-- A binary function on live handles. -/
theorem exec_binaryFrame {checks : Outcome Unit} {op : T.Plan → T.Plan → Outcome T.Plan}
    (hrt : n.boxes.get? runtime = some .runtime)
    (hl : n.boxes.get? left = some (.dataframe leftDf))
    (hr : n.boxes.get? right = some (.dataframe rightDf)) :
    (binaryFrame E checks op runtime left right).exec n =
      (makeFrame (do checks; op leftDf rightDf)).exec n := by
  rw [binaryFrame, exec_assertNotNull (ne_null_of_box hrt), exec_assertNotNull (ne_null_of_box hl),
    exec_assertNotNull (ne_null_of_box hr), exec_bind_lift]
  cases checks with
  | error e => rfl
  | ok _ =>
      dsimp only
      rw [exec_derefRuntime hrt, exec_derefFrame hl, exec_derefFrame hr]
      rfl

/-- The strings behind the addresses of a call. -/
abbrev UnaryOp.Stored (mem : Mem) (op : UnaryOp Addr StrArray)
    (op' : UnaryOp CString (List CString)) : Prop :=
  op.Rel (CStrAt mem) (CStrArrayAt mem) op'

abbrev BinaryOp.Stored (mem : Mem) (op : BinaryOp Int StrArray)
    (op' : BinaryOp Int (List CString)) : Prop :=
  op.Rel (CStrArrayAt mem) op'

/-- What a unary function computes from C strings. -/
def UnaryOp.eval (E : Engine T) (df : T.Plan) (op : UnaryOp CString (List CString)) :
    Outcome T.Plan :=
  op.apply E (CString.toStr E) (List.mapM (CString.toStr E)) df

def BinaryOp.eval (E : Engine T) (left right : T.Plan) (op : BinaryOp Int (List CString)) :
    Outcome T.Plan :=
  op.apply E joinTypeFromInt (List.mapM (CString.toStr E)) left right

section Related

variable {R : Addr → CString → Prop} {S : StrArray → List CString → Prop}

/-- A unary function computes its function of the plan from whatever is read
at its arguments, none of which is null. -/
theorem exec_unaryOp_of_rel {op : UnaryOp Addr StrArray} {op' : UnaryOp CString (List CString)}
    (hrt : n.boxes.get? runtime = some .runtime)
    (hdf : n.boxes.get? dataframe = some (.dataframe df))
    (hR : ∀ p s, R p s → p ≠ 0 ∧ cStr E mem p = s.toStr E)
    (hS : ∀ a ss, S a ss → a.1 ≠ 0 ∧ parseCStrArray E mem a.1 a.2 = ss.mapM (CString.toStr E))
    (h : op.Rel R S op') :
    (op.body E mem runtime dataframe).exec n = (makeFrame (op'.eval E df)).exec n := by
  have happly : op.apply E (cStr E mem) (fun a => parseCStrArray E mem a.1 a.2) df =
      op'.eval E df :=
    h.apply_eq E df (fun p s hp => (hR p s hp).2) (fun a ss ha => (hS a ss ha).2)
  rw [← happly]
  cases op <;> cases op' <;> try contradiction
  case limit | distinct | explain => exact exec_unaryFrame hrt hdf
  case filter =>
    exact (exec_unaryFrame hrt hdf).trans (by rw [assertNotNull_of_ne (hR _ _ h).1]; rfl)
  case select | sort | selectColumns | dropColumns =>
    exact (exec_unaryFrame hrt hdf).trans (by rw [assertNotNull_of_ne (hS _ _ h).1]; rfl)
  case aggregate =>
    exact (exec_unaryFrame hrt hdf).trans (by
      rw [assertNotNull_of_ne (hS _ _ h.1).1, assertNotNull_of_ne (hS _ _ h.2).1]; rfl)
  case withColumn | withColumnRenamed =>
    exact (exec_unaryFrame hrt hdf).trans (by
      rw [assertNotNull_of_ne (hR _ _ h.1).1, assertNotNull_of_ne (hR _ _ h.2).1]; rfl)

/-- The same for a function of two frames. -/
theorem exec_binaryOp_of_rel {op : BinaryOp Int StrArray} {op' : BinaryOp Int (List CString)}
    (hrt : n.boxes.get? runtime = some .runtime)
    (hl : n.boxes.get? left = some (.dataframe leftDf))
    (hr : n.boxes.get? right = some (.dataframe rightDf))
    (hS : ∀ a ss, S a ss → a.1 ≠ 0 ∧ parseCStrArray E mem a.1 a.2 = ss.mapM (CString.toStr E))
    (h : op.Rel S op') :
    (op.body E mem runtime left right).exec n =
      (makeFrame (op'.eval E leftDf rightDf)).exec n := by
  have happly : op.apply E joinTypeFromInt (fun a => parseCStrArray E mem a.1 a.2) leftDf rightDf =
      op'.eval E leftDf rightDf :=
    h.apply_eq E leftDf rightDf (fun a ss ha => (hS a ss ha).2)
  rw [← happly]
  cases op <;> cases op' <;> try contradiction
  case join =>
    exact (exec_binaryFrame hrt hl hr).trans (by
      rw [assertNotNull_of_ne (hS _ _ h.2.1).1, assertNotNull_of_ne (hS _ _ h.2.2).1]; rfl)
  all_goals exact exec_binaryFrame hrt hl hr

end Related

/-- **A unary function computes its function of the plan.** -/
theorem exec_unaryOp {op : UnaryOp Addr StrArray} {op' : UnaryOp CString (List CString)}
    (hrt : n.boxes.get? runtime = some .runtime)
    (hdf : n.boxes.get? dataframe = some (.dataframe df)) (h : op.Stored mem op') :
    (op.body E mem runtime dataframe).exec n = (makeFrame (op'.eval E df)).exec n :=
  exec_unaryOp_of_rel hrt hdf (fun _ _ hs => ⟨hs.ne_null, cStr_eq hs⟩)
    (fun _ _ hs => ⟨hs.ne_null, parseCStrArray_eq hs⟩) h

/-- **A binary function computes its function of the two plans**, left as
left and right as right. -/
theorem exec_binaryOp {op : BinaryOp Int StrArray} {op' : BinaryOp Int (List CString)}
    (hrt : n.boxes.get? runtime = some .runtime)
    (hl : n.boxes.get? left = some (.dataframe leftDf))
    (hr : n.boxes.get? right = some (.dataframe rightDf)) (h : op.Stored mem op') :
    (op.body E mem runtime left right).exec n =
      (makeFrame (op'.eval E leftDf rightDf)).exec n :=
  exec_binaryOp_of_rel hrt hl hr (fun _ _ hs => ⟨hs.ne_null, parseCStrArray_eq hs⟩) h

/-- `session_sql` on live handles: the text is decoded, the session asked, the
frame boxed. -/
theorem exec_sessionSql {sql : Addr} {s : CString} (hrt : n.boxes.get? runtime = some .runtime)
    (hsess : n.boxes.get? session = some (.session ctx)) (hs : CStrAt mem sql s) :
    (sessionSql E mem runtime session sql).exec n =
      (do
        let sqlStr ← lift (s.toStr E)
        let df ← inSession session (E.sql ctx sqlStr)
        intoRaw (.dataframe df) : FfiM T Addr).exec n := by
  rw [sessionSql, exec_assertNotNull (ne_null_of_box hrt),
    exec_assertNotNull (ne_null_of_box hsess), exec_assertNotNull hs.ne_null,
    exec_derefRuntime hrt, exec_derefSession hsess, cStr_eq hs]

/-- A registration on live handles: name, then path, then the session. -/
theorem exec_registerTable {register : T.Ctx → Text → Text → Outcome Unit × T.Ctx}
    {tableName path : Addr} {name pathName : CString} (hrt : n.boxes.get? runtime = some .runtime)
    (hsess : n.boxes.get? session = some (.session ctx)) (hn : CStrAt mem tableName name)
    (hp : CStrAt mem path pathName) :
    (registerTable E mem register runtime session tableName path).exec n =
      (do
        let nameStr ← lift (name.toStr E)
        let pathStr ← lift (pathName.toStr E)
        inSession session (register ctx nameStr pathStr)
        pure 0 : FfiM T Addr).exec n := by
  rw [registerTable, exec_assertNotNull (ne_null_of_box hrt),
    exec_assertNotNull (ne_null_of_box hsess), exec_assertNotNull hn.ne_null,
    exec_assertNotNull hp.ne_null, exec_derefRuntime hrt, exec_derefSession hsess, cStr_eq hn,
    cStr_eq hp]

/-- `session_new` on a live runtime. -/
theorem exec_sessionNew (hrt : n.boxes.get? runtime = some .runtime) :
    (sessionNew E runtime).exec n = (makeObj .session E.contextNew).exec n := by
  rw [sessionNew, exec_assertNotNull (ne_null_of_box hrt), exec_derefRuntime hrt]
  rfl

/-- An engine call in a live session: its outcome, and the new context in
the session's box. -/
theorem exec_inSession {α : Type} {o : Outcome α × T.Ctx}
    (h : n.boxes.get? session = some (.session ctx)) :
    (inSession session o).exec n =
      (o.1, { n with boxes := n.boxes.put session (.session o.2) }) := by
  have hset : (setContext session o.2).exec n =
      (.ok (), { n with boxes := n.boxes.put session (.session o.2) }) := by
    rw [setContext, Prog.exec_updates, h]
  rw [inSession, Prog.exec_bind_ok hset]
  rfl

/-- `dataframe_count` on live handles. -/
theorem exec_dataframeCount (hrt : n.boxes.get? runtime = some .runtime)
    (hdf : n.boxes.get? dataframe = some (.dataframe df)) :
    (dataframeCount E runtime dataframe).exec n = (E.count df, n) := by
  rw [dataframeCount, exec_assertNotNull (ne_null_of_box hrt),
    exec_assertNotNull (ne_null_of_box hdf), exec_derefRuntime hrt, exec_derefFrame hdf]
  rfl

/-- `dataframe_collect` on live handles and a struct of the caller. -/
theorem exec_dataframeCollect {streamOut : Addr} (hrt : n.boxes.get? runtime = some .runtime)
    (hdf : n.boxes.get? dataframe = some (.dataframe df)) (hout : streamOut ≠ 0) :
    (dataframeCollect E runtime dataframe streamOut).exec n =
      (do
        let batches ← lift (E.collect df)
        writeStream streamOut ⟨E.schema df, batches⟩
        pure 0 : FfiM T Addr).exec n := by
  rw [dataframeCollect, exec_assertNotNull (ne_null_of_box hrt),
    exec_assertNotNull (ne_null_of_box hdf), exec_assertNotNull hout, exec_derefRuntime hrt,
    exec_derefFrame hdf]

end Live

end DataFusionPanama
