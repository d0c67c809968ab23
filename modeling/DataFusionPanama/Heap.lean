import DataFusionPanama.Lifecycle
import DataFusionPanama.Readers

/-!
# DataFusionPanama.Heap

What is on the native side besides the objects: the boxed `DFResult`s, the
`ArrowArrayStream` structs and the streams behind them.  Nothing here asks
anything of the caller; a pointer that dangles may make a call say anything,
but nothing here is about what it may break.

`Kept` is the frame rule the results need: what is kept by everything the
binding does to the native side is kept by every call.  A struct changes in
three ways only (`ReaderStep`), and these keep every live struct in the
hands of one open reader.  A stream is lost in one way only: its import
throws (`lost_after`).
-/

namespace DataFusionPanama

variable {T : Types} {α β σ : Type}

/-! ## what every call keeps -/

/-- A preorder kept by everything the binding does to the native side, but
for the streams. -/
structure Kept (R : Native T → Native T → Prop) : Prop where
  refl : ∀ n, R n n
  trans : ∀ a b c, R a b → R b c → R a c
  log : ∀ n c, R n (n.log (.call c))
  box : ∀ n o, R n (n.box o)
  unbox : ∀ n k p, R n (n.unbox k p)
  context : ∀ n session context,
    R n { n with boxes := n.boxes.put session (.session context) }
  settled : ∀ n (o : Outcome Addr), R n (n.settled (channelReads o))

/-- It is kept by what happens to the streams as well. -/
def KeptByStreams (R : Native T → Native T → Prop) : Prop :=
  ∀ n streams lost, R n { n with streams := streams, lost := lost }

/-- The one function that writes to a struct of the caller. -/
def Downcall.exports : Downcall → Bool
  | .dataframeCollect .. => true
  | _ => false

/-- The calls that have to do with streams. -/
def ApiCall.streams : ApiCall → Bool
  | .collect .. | .reader .. => true
  | _ => false

namespace Kept

variable {R : Native T → Native T → Prop} (h : Kept R)

include h

/-- One program after another. -/
theorem bind {ε : Type} {x : Prog (Native T) ε α} {f : α → Prog (Native T) ε β}
    (hx : Prog.Keeps R x) (hf : ∀ a, Prog.Keeps R (f a)) : Prog.Keeps R (x >>= f) :=
  .bind (fun {a b c} => h.trans a b c) hx hf

/-! ### on the Rust side -/

theorem lift (o : Outcome α) : Prog.Keeps R (lift (T := T) o) := .reads h.refl _

theorem intoRaw (o : Obj T) : Prog.Keeps R (intoRaw o) := .updates fun n => h.box n o

/-- Replacing a context keeps it. -/
theorem setContext (session : Addr) (context : T.Ctx) :
    Prog.Keeps R (setContext session context) := by
  refine .updates fun n => ?_
  split
  · exact h.context n session context
  · exact h.refl n

theorem inSession (session : Addr) (o : Outcome α × T.Ctx) : Prog.Keeps R (inSession session o) :=
  h.bind (h.setContext session o.2) fun _ => h.lift o.1

theorem unaryFrame (E : Engine T) (checks : Outcome Unit) (op : T.Plan → Outcome T.Plan)
    (runtime dataframe : Addr) : Prog.Keeps R (unaryFrame E checks op runtime dataframe) := by
  -- the checks
  refine h.bind (h.lift _) fun _ => h.bind (h.lift _) fun _ => h.bind (h.lift checks) fun _ => ?_
  -- the operation on what is behind the handles
  refine h.bind (.reads h.refl _) fun _ => h.bind (.reads h.refl _) fun df => ?_
  refine h.bind (h.lift (op df)) fun result => ?_
  exact h.intoRaw (.dataframe result)

theorem binaryFrame (E : Engine T) (checks : Outcome Unit)
    (op : T.Plan → T.Plan → Outcome T.Plan) (runtime left right : Addr) :
    Prog.Keeps R (binaryFrame E checks op runtime left right) := by
  -- the checks
  refine h.bind (h.lift _) fun _ => h.bind (h.lift _) fun _ => h.bind (h.lift _) fun _ => ?_
  refine h.bind (h.lift checks) fun _ => ?_
  -- the operation on what is behind the handles
  refine h.bind (.reads h.refl _) fun _ => h.bind (.reads h.refl _) fun leftDf => ?_
  refine h.bind (.reads h.refl _) fun rightDf => ?_
  refine h.bind (h.lift (op leftDf rightDf)) fun result => ?_
  exact h.intoRaw (.dataframe result)

theorem sessionSql (E : Engine T) (mem : Mem) (runtime session sql : Addr) :
    Prog.Keeps R (sessionSql E mem runtime session sql) := by
  refine h.bind (h.lift _) fun _ => h.bind (h.lift _) fun _ => h.bind (h.lift _) fun _ => ?_
  refine h.bind (.reads h.refl _) fun _ => h.bind (.reads h.refl _) fun _ => ?_
  -- the text is decoded before the session is asked
  refine h.bind (h.lift _) fun _ => ?_
  refine h.bind (h.inSession session _) fun df => ?_
  exact h.intoRaw (.dataframe df)

theorem registerTable (E : Engine T) (mem : Mem)
    (register : T.Ctx → Text → Text → Outcome Unit × T.Ctx)
    (runtime session tableName path : Addr) :
    Prog.Keeps R (registerTable E mem register runtime session tableName path) := by
  -- four pointers are checked
  refine h.bind (h.lift _) fun _ => h.bind (h.lift _) fun _ => ?_
  refine h.bind (h.lift _) fun _ => h.bind (h.lift _) fun _ => ?_
  refine h.bind (.reads h.refl _) fun _ => h.bind (.reads h.refl _) fun _ => ?_
  -- name and path are decoded before the session is asked
  refine h.bind (h.lift _) fun _ => h.bind (h.lift _) fun _ => ?_
  refine h.bind (h.inSession session _) fun _ => ?_
  exact .pure h.refl 0

/-- The body of an exported function. -/
theorem body (E : Engine T) (mem : Mem) (c : Downcall) (hs : c.exports = true → KeptByStreams R) :
    Prog.Keeps R (c.body E mem) := by
  cases c with
  | runtimeNew =>
      refine h.bind (h.lift _) fun _ => ?_
      exact h.intoRaw .runtime
  | sessionNew rt =>
      refine h.bind (h.lift _) fun _ => h.bind (.reads h.refl _) fun _ => ?_
      refine h.bind (h.lift E.contextNew) fun context => ?_
      exact h.intoRaw (.session context)
  | sessionSql rt sess sql => exact h.sessionSql E mem rt sess sql
  | sessionRegisterCsv rt sess name path => exact h.registerTable E mem _ rt sess name path
  | sessionRegisterParquet rt sess name path => exact h.registerTable E mem _ rt sess name path
  | dataframeCollect rt df out =>
      refine h.bind (h.lift _) fun _ => h.bind (h.lift _) fun _ => h.bind (h.lift _) fun _ => ?_
      refine h.bind (.reads h.refl _) fun _ => h.bind (.reads h.refl _) fun df => ?_
      refine h.bind (h.lift (E.collect df)) fun batches => ?_
      -- the one write to a struct
      refine h.bind (.updates fun n => hs rfl n _ _) fun _ => ?_
      exact .pure h.refl 0
  | dataframeCount rt df =>
      refine h.bind (h.lift _) fun _ => h.bind (h.lift _) fun _ => ?_
      refine h.bind (.reads h.refl _) fun _ => h.bind (.reads h.refl _) fun df => ?_
      exact h.lift (E.count df)
  | unary op rt df => cases op <;> exact h.unaryFrame E _ _ rt df
  | binary op rt left right => cases op <;> exact h.binaryFrame E _ _ rt left right

/-! ### on the Java side -/

/-- A native call and the unwrapping of its result. -/
theorem call (E : Engine T) (mem : Mem) (c : Downcall) (hs : c.exports = true → KeptByStreams R) :
    Prog.Keeps R (call E mem c) := by
  intro n
  have hbody := h.body E mem c hs (n.log (.call c))
  rcases hb : (c.body E mem).exec (n.log (.call c)) with ⟨o, n₁⟩
  rw [hb] at hbody
  have hn : R n n₁ := h.trans _ _ _ (h.log n c) hbody
  cases o with
  | ok v =>
      rw [exec_call mem c hb (by simp)]
      exact h.trans _ _ _ hn (h.settled n₁ _)
  | error f =>
      by_cases hnul : nul ∈ f.text
      · rw [exec_call_aborted mem c hb hnul]
        exact hn
      · rw [exec_call mem c hb (by rintro _ ⟨⟩; exact hnul)]
        exact h.trans _ _ _ hn (h.settled n₁ _)

/-- Reading a pointer field keeps it. -/
theorem openPointer (pointer : Addr) (message : String) :
    Prog.Keeps R (openPointer (T := T) pointer message) := by
  unfold DataFusionPanama.openPointer
  split
  · exact .reads h.refl _
  · exact .pure h.refl _

/-- The common end of the methods. -/
theorem make (E : Engine T) (mem : Mem) (c : Downcall) (f : Addr → α)
    (hs : c.exports = true → KeptByStreams R) :
    Prog.Keeps R (do
      let v ← DataFusionPanama.call E mem c
      pure (f v) : JavaM T α) :=
  h.bind (h.call E mem c hs) fun _ => .pure h.refl _

section Methods

variable (E : Engine T)

/-- `DataFusionRuntime.create` keeps it. -/
theorem createRuntime : Prog.Keeps R (DataFusionRuntimeImpl.create E) :=
  .mapError (h.make E _ .runtimeNew _ (by simp [Downcall.exports])) _

theorem newSession (w : DataFusionRuntimeImpl) : Prog.Keeps R (w.newSession E) :=
  h.bind (h.openPointer _ _) fun p =>
    .mapError (h.make E _ (.sessionNew p) _ (by simp [Downcall.exports])) _

theorem sql (w : DataFusionSessionImpl) (query : JArg) : Prog.Keeps R (w.sql E query) := by
  refine .mapError (h.bind (.reads h.refl _) fun arg => ?_) _
  obtain ⟨sql, mem⟩ := arg
  exact h.bind (h.openPointer _ _) fun p =>
    h.make E mem (.sessionSql _ p sql) _ (by simp [Downcall.exports])

/-- The two registration methods. -/
theorem register (w : DataFusionSessionImpl) {function : Addr → Addr → Addr → Addr → Downcall}
    (hfun : ∀ r s a b, (function r s a b).exports = false) (tableName path : JArg) :
    Prog.Keeps R (w.register E function tableName path) := by
  refine .mapError (h.bind (.reads h.refl _) fun arg => ?_) _
  obtain ⟨⟨name, pathName⟩, mem⟩ := arg
  exact h.bind (h.openPointer _ _) fun p =>
    h.make E mem (function _ p name pathName) _ (by simp [hfun])

theorem transform (w : DataFusionDataFrameImpl) (op : UnaryOp JArg JArgs) :
    Prog.Keeps R (w.transform E op) := by
  refine .mapError (h.bind (.reads h.refl _) fun arg => ?_) _
  obtain ⟨op', mem⟩ := arg
  exact h.bind (h.openPointer _ _) fun p =>
    h.make E mem (.unary op' _ p) _ (by simp [Downcall.exports])

theorem combine (w : DataFusionDataFrameImpl) (other : Option DataFusionDataFrameImpl)
    (op : BinaryOp (Option JoinType) JArgs) : Prog.Keeps R (w.combine E other op) := by
  refine .mapError (h.bind (.reads h.refl _) fun arg => ?_) _
  obtain ⟨op', mem⟩ := arg
  refine h.bind (h.openPointer _ _) fun p => h.bind ?_ fun q => h.bind ?_ fun op'' =>
    h.make E mem (.binary op'' _ p q) _ (by simp [Downcall.exports])
  · cases other with
    | none => exact .reads h.refl _
    | some o => exact h.openPointer _ _
  · cases op' with
    | join joinType l r => cases joinType <;> exact .reads h.refl _
    | _ => exact .reads h.refl _

theorem count (w : DataFusionDataFrameImpl) : Prog.Keeps R (w.count E) :=
  .mapError (h.bind (h.openPointer _ _) fun p =>
    h.make E _ (.dataframeCount _ p) _ (by simp [Downcall.exports])) _

/-- A release keeps it. -/
theorem release (n : Native T) (k : Kind) (p : Addr) : R n (n.release k p) := by
  unfold Native.release
  split
  · exact h.refl n
  · exact h.unbox n k p

/-- The cleaning action keeps it. -/
theorem clean (w : DataFusionDataFrameImpl) : Prog.Keeps R (w.clean (T := T)) := by
  intro n
  cases hw : w.cleaned with
  | true =>
      rw [exec_clean_of_cleaned hw]
      exact h.refl n
  | false =>
      rw [exec_clean_of_not hw]
      exact h.release n _ _

end Methods

/-! ### with a reader's resources -/

section Streams

variable {native : σ → Native T} (hs : KeptByStreams R)

/-- One program after another, on a state that contains the native side. -/
theorem bindOn {x : Prog σ Stop α} {f : α → Prog σ Stop β}
    (hx : Prog.Keeps (fun s s' => R (native s) (native s')) x)
    (hf : ∀ a, Prog.Keeps (fun s s' => R (native s) (native s')) (f a)) :
    Prog.Keeps (fun s s' => R (native s) (native s')) (x >>= f) :=
  .bind (fun {a b c} => h.trans (native a) (native b) (native c)) hx hf

theorem pureOn (a : α) :
    Prog.Keeps (fun s s' => R (native s) (native s')) (pure a : Prog σ Stop α) :=
  .pure (fun s => h.refl (native s)) a

theorem readsOn (f : σ → Except Stop α) :
    Prog.Keeps (fun s s' => R (native s) (native s')) (.reads f) :=
  .reads (fun s => h.refl (native s)) f

/-- A library call that may throw keeps it. -/
theorem throwsOn (t : Option Throwable) :
    Prog.Keeps (fun s s' => R (native s) (native s')) (throws t) := by
  cases t with
  | none => exact h.pureOn ()
  | some t => exact h.readsOn fun _ => .error (.thrown t)

/-- A `catch` keeps it when the handler does. -/
theorem catchOn {x : Prog σ Stop α} {handler : Throwable → Prog σ Stop α}
    (hx : Prog.Keeps (fun s s' => R (native s) (native s')) x)
    (hh : ∀ t, Prog.Keeps (fun s s' => R (native s) (native s')) (handler t)) :
    Prog.Keeps (fun s s' => R (native s) (native s')) (catchThrowable x handler) := by
  intro s
  have hxs := hx s
  rcases hr : x.exec s with ⟨(t | -) | a, s'⟩ <;> rw [hr] at hxs
  · rw [exec_catchThrowable_thrown hr]
    exact h.trans _ _ _ hxs (hh t s')
  · rw [exec_catchThrowable_aborted hr]
    exact hxs
  · rw [exec_catchThrowable_ok hr]
    exact hxs

include hs

/-- Closing a stream keeps it. -/
theorem closeStream (stream : Addr) :
    Prog.Keeps (fun s s' => R s.native s'.native) (closeStream (T := T) stream) := by
  refine .updates fun s => ?_
  split
  · exact hs s.native _ _
  · exact h.refl _

omit hs in
/-- Closing an allocator keeps it. -/
theorem closeAllocator :
    Prog.Keeps (fun s s' => R s.native s'.native) (closeAllocator (T := T)) := by
  refine h.bindOn (.updates fun s => h.refl s.native) fun outstanding => ?_
  split
  · exact h.pureOn ()
  · exact h.readsOn fun _ => .error _

/-- Importing a stream keeps it. -/
theorem importArrayStream (env : ArrowEnv) (stream : Addr) :
    Prog.Keeps (fun s s' => R s.native s'.native) (importArrayStream (T := T) env stream) := by
  refine h.bindOn (h.throwsOn _) fun _ => h.bindOn (h.readsOn _) fun _ => ?_
  -- the stream moves into a struct of Arrow's own, and the caller's is given back
  refine h.bindOn (.updates fun s => hs s.native _ _) fun _ => ?_
  refine h.bindOn (h.closeStream hs stream) fun _ => ?_
  exact h.pureOn _

/-- The downcall of a collect keeps it. -/
theorem collectInto (E : Engine T) (env : ArrowEnv) (runtime dataframe stream : Addr) :
    Prog.Keeps (fun s s' => R s.native s'.native)
      (collectInto E env runtime dataframe stream) := by
  intro s
  cases hinvoke : env.invoke with
  | some t =>
      rw [exec_collectInto_error hinvoke]
      exact h.refl s.native
  | none =>
      have hcall : (DataFusionPanama.collectInto E env runtime dataframe stream).exec s = _ :=
        exec_invokeCollect hinvoke
      rw [hcall]
      refine h.bindOn (.zoom (fun _ _ hn => hn) (h.call E _ _ fun _ => hs)) (fun _ => ?_) s
      exact h.bindOn (h.importArrayStream hs env stream) fun _ => h.pureOn _

/-- `RecordBatchReaderImpl.create` keeps it. -/
theorem create (E : Engine T) (env : ArrowEnv) (runtime dataframe : Addr) :
    Prog.Keeps (fun s s' => R s.native s'.native)
      (RecordBatchReaderImpl.create E env runtime dataframe) := by
  refine h.catchOn (h.bindOn (h.bindOn (h.throwsOn _) fun _ => .updates fun s => hs s.native _ _)
    fun stream => h.catchOn (h.collectInto hs E env runtime dataframe stream) fun t =>
      h.bindOn (h.closeStream hs stream) fun _ => h.readsOn fun _ => .error (.thrown t)) fun t => ?_
  refine h.bindOn h.closeAllocator fun _ => ?_
  cases t <;> exact h.readsOn fun _ => .error _

/-- `collect` keeps it. -/
theorem collect (E : Engine T) (env : ArrowEnv) (w : DataFusionDataFrameImpl) :
    Prog.Keeps R (w.collect E env) := by
  refine h.bind (h.openPointer _ _) fun pointer n => ?_
  have hcreate := h.create hs E env w.runtimePointer pointer ⟨n, .new⟩
  change R n (collectEnd _).2
  rcases hx : (RecordBatchReaderImpl.create E env w.runtimePointer pointer).exec ⟨n, .new⟩ with
    ⟨e | reader, s⟩ <;> rw [hx] at hcreate
  · exact hcreate
  · exact hcreate

/-- A call on a reader. -/
theorem readerCall (s : Reading T) (c : ReaderCall) : R s.native (c.run s).native := by
  have hload : Prog.Keeps (fun s s' : Reading T => R s.native s'.native) Reading.loadNextBatch := by
    refine h.bindOn (h.readsOn _) fun stream => ?_
    split
    · exact .updates fun s => h.refl s.native
    · exact .updates fun s => hs s.native _ _
  have hclose : Prog.Keeps (fun s s' : Reading T => R s.native s'.native)
      Reading.closeArrowReader :=
    h.bindOn (.updates fun s => hs s.native _ _) fun _ => h.bindOn (h.readsOn _) fun owned =>
      .zoom (fun _ _ hn => hn) (h.closeStream hs owned)
  cases c with
  | next io =>
      refine (h.bindOn (h.readsOn _) fun _ => ?_ :
        Prog.Keeps (fun s s' : Reading T => R s.native s'.native) (Reading.next io)) s
      cases io with
      | none => exact hload
      | some e => exact h.readsOn fun _ => .error _
  | getSchema io =>
      refine (h.bindOn (h.readsOn _) fun _ => ?_ :
        Prog.Keeps (fun s s' : Reading T => R s.native s'.native) (Reading.getSchema io)) s
      cases io with
      | none => exact h.bindOn (h.readsOn _) fun _ => h.pureOn _
      | some e => exact h.readsOn fun _ => .error _
  | getCurrentBatch io =>
      refine (h.bindOn (h.readsOn _) fun _ => ?_ :
        Prog.Keeps (fun s s' : Reading T => R s.native s'.native) (Reading.getCurrentBatch io)) s
      cases io <;> exact h.readsOn _
  | close io =>
      refine (h.bindOn (h.readsOn _) fun closed => ?_ :
        Prog.Keeps (fun s s' : Reading T => R s.native s'.native) (Reading.close io)) s
      split
      · exact h.pureOn ()
      · refine h.bindOn (.updates fun s => h.refl s.native) fun _ => h.bindOn hclose fun _ =>
          h.bindOn (.zoom (fun _ _ hn => hn) h.closeAllocator) fun _ => ?_
        cases io <;> exact h.readsOn fun _ => _

end Streams

/-! ### one step of a program -/

section Step

variable {p : Process T}

omit h in
/-- A method and what becomes of its result keep it. -/
theorem invoke {x : JavaM T α} {store : Process T → α → Process T} (hx : Prog.Keeps R x)
    (hstore : ∀ n a, (store { p with native := n } a).native = n) :
    R p.native (p.invoke x store).2.native := by
  have hn := hx p.native
  rw [Process.invoke]
  rcases hr : x.exec p.native with ⟨e | a, n⟩ <;> rw [hr] at hn
  · exact hn
  · exact (hstore n a).symm ▸ hn

/-- A method on an object that may not be there keeps it. -/
theorem on {ω : Type} {object : Option ω} {method : ω → Reply × Process T}
    (hm : ∀ w, R p.native (method w).2.native) : R p.native (p.on object method).2.native := by
  cases object with
  | none => exact h.refl _
  | some w => exact hm w

/-- **What a step keeps.** -/
theorem after (s : Step T) (hs : s.2.streams = true → KeptByStreams R) :
    R p.native (p.after s).native := by
  cases hh : p.halted with
  | true =>
      rw [Process.after_of_halted hh]
      exact h.refl _
  | false =>
      obtain ⟨E, call⟩ := s
      rw [Process.after, Process.step_of_running E call hh]
      cases call with
      | createRuntime => exact invoke (h.createRuntime E) fun _ _ => rfl
      | newSession r => exact h.on fun w => invoke (h.newSession E w) fun _ _ => rfl
      | closeRuntime r =>
          exact h.on fun w => invoke (fun n => by
            rw [exec_closeRuntime]
            exact h.release n _ _) fun _ _ => rfl
      | sql s query => exact h.on fun w => invoke (h.sql E w query) fun _ _ => rfl
      | registerCsv s tableName path =>
          exact h.on fun w => invoke
            (h.register E w (fun _ _ _ _ => rfl) tableName path) fun _ _ => rfl
      | registerParquet s tableName path =>
          exact h.on fun w => invoke
            (h.register E w (fun _ _ _ _ => rfl) tableName path) fun _ _ => rfl
      | closeSession s =>
          exact h.on fun w => invoke (fun n => by
            rw [exec_closeSession]
            exact h.release n _ _) fun _ _ => rfl
      | transform d op => exact h.on fun w => invoke (h.transform E w op) fun _ _ => rfl
      | combine d other op =>
          exact h.on fun w => h.on fun o => invoke (h.combine E w o op) fun _ _ => rfl
      | count d => exact h.on fun w => invoke (h.count E w) fun _ _ => rfl
      | collect d env =>
          exact h.on fun w => invoke (h.collect (hs rfl) E env w) fun _ _ => rfl
      | closeFrame d => exact h.on fun w => invoke (h.clean w) fun _ _ => rfl
      | drop d => exact h.on fun w => h.refl _
      | clean d => exact h.on fun w => invoke (h.clean w) fun _ _ => rfl
      | reader i call => exact h.on fun r => h.readerCall (hs rfl) ⟨⟨p.native, r.1⟩, r.2⟩ call

end Step

end Kept

/-! ## results -/

/-- The life of a boxed result: it is read, and then freed. -/
def life (r : Addr) (reads : Nat) : List ResultEvent :=
  .new r :: List.replicate reads (.read r) ++ [.free r]

/-- One life after the other, the first one at this address. -/
def lives : Addr → List Nat → List ResultEvent
  | _, [] => []
  | r, reads :: rest => life r reads ++ lives (r + 1) rest

/-- Lives after lives. -/
theorem lives_append (r : Addr) (l l' : List Nat) :
    lives r (l ++ l') = lives r l ++ lives (r + l.length) l' := by
  induction l generalizing r with
  | nil => rfl
  | cons reads l ih =>
      rw [List.cons_append, lives, lives, ih, List.append_assoc, List.length_cons,
        Nat.add_right_comm]
      rfl

/-- Whatever results have been boxed have been unwrapped and freed. -/
def Settles (n n' : Native T) : Prop :=
  ∃ reads : List Nat, (∀ k ∈ reads, k = 2 ∨ k = 3) ∧
    n'.results.cells = n.results.cells ++ List.replicate reads.length none ∧
    n'.ledger = n.ledger ++ lives n.nextResult reads

/-- Where no result is made there is no life. -/
theorem Settles.of_eq {n n' : Native T} (hr : n'.results = n.results)
    (hl : n'.ledger = n.ledger) : Settles n n' :=
  ⟨[], by simp, by rw [hr]; simp, by rw [hl, lives, List.append_nil]⟩

/-- What two steps settle is settled one after the other. -/
theorem Settles.trans {a b c : Native T} (h : Settles a b) (h' : Settles b c) : Settles a c := by
  obtain ⟨l, hl, hcells, hledger⟩ := h
  obtain ⟨l', hl', hcells', hledger'⟩ := h'
  refine ⟨l ++ l', fun k hk => (List.mem_append.mp hk).elim (hl k) (hl' k), ?_, ?_⟩
  · rw [hcells', hcells, List.append_assoc, List.length_append, List.replicate_append_replicate]
  · have hnext : b.nextResult = a.nextResult + l.length := by
      rw [Native.nextResult, Native.nextResult, hcells, List.length_append, List.length_replicate,
        Nat.add_right_comm]
    rw [hledger', hledger, hnext, List.append_assoc, lives_append]

/-- Everything settles its results. -/
theorem kept_settles : Kept (Settles (T := T)) where
  refl _ := .of_eq rfl rfl
  trans _ _ _ h h' := h.trans h'
  log _ _ := .of_eq rfl rfl
  box _ _ := .of_eq rfl rfl
  unbox _ _ _ := .of_eq rfl rfl
  context _ _ _ := .of_eq rfl rfl
  settled n o := by
    refine ⟨[channelReads o], ?_, rfl, ?_⟩
    · cases o <;> simp [channelReads]
    · rw [lives, lives, List.append_nil]
      rfl

/-- The streams have no part in it. -/
theorem keptByStreams_settles : KeptByStreams (Settles (T := T)) :=
  fun _ _ _ => .of_eq rfl rfl

/-- A whole run settles its results. -/
theorem settles_run (steps : List (Step T)) :
    Settles (Process.start : Process T).native (Process.start.run steps).native :=
  steps.foldlRecOn (motive := fun p => Settles (Process.start : Process T).native p.native)
    Process.after (kept_settles.refl _) fun _ hp s _ =>
      hp.trans (kept_settles.after s fun _ => keptByStreams_settles)

/-- No result outlives its call. -/
theorem no_result_left (steps : List (Step T)) (r : Addr) :
    ¬ (Process.start.run steps).native.results.Live r := by
  obtain ⟨reads, -, hcells, -⟩ := settles_run steps
  intro hr
  obtain ⟨x, hx⟩ := Store.live_iff.mp hr
  cases r with
  | zero => cases hx
  | succ i =>
      have hnone : (List.replicate reads.length (none : Option DFResult))[i]?.join = none := by
        rw [List.getElem?_replicate]
        split <;> rfl
      rw [Store.get?, hcells] at hx
      change (List.replicate reads.length none)[i]?.join = some x at hx
      rw [hnone] at hx
      cases hx

/-- **Every result is settled.**  After any run, of any calls on objects open
or closed, and also when the process has been taken down: each `DFResult`
that was ever boxed was read two or three times and then freed, before the
next one was boxed, and none is left. -/
theorem Process.results_settled (steps : List (Step T)) :
    ∃ reads : List Nat, (∀ k ∈ reads, k = 2 ∨ k = 3) ∧
      (start.run steps).native.ledger = lives 1 reads ∧
      ∀ r, ¬ (start.run steps).native.results.Live r := by
  obtain ⟨reads, hreads, -, hledger⟩ := settles_run steps
  exact ⟨reads, hreads, hledger, no_result_left steps⟩

/-! ## readers -/

/-- The stream a collect exports to a new reader, if it does. -/
def Process.collected (p : Process T) (s : Step T) : Option (Stream T) :=
  match s.2 with
  | .collect d env => (p.frame? d).bind fun w =>
      if w.pointer = 0 then none
      else (createOutcome env
        (collectOutcome s.1 w.runtimePointer w.pointer p.native.boxes)).toOption
  | _ => none

/-- The three things a step can do to the readers and their structs. -/
inductive ReaderStep (p : Process T) (s : Step T) (p' : Process T) : Prop
  /-- It has nothing to do with them. -/
  | idle (hc : p.collected s = none)
      (hi : ∀ i call, s.2 = .reader i call → p.readers[i]? = none)
      (hs : ∀ q x, p.native.streams.get? q = some x → p'.native.streams.get? q = some x)
      (hrun : p'.halted = false → ∀ q, p'.native.streams.get? q = p.native.streams.get? q)
      (hr : p'.readers = p.readers)
  /-- It collects a frame. -/
  | collects {stream : Stream T} {owned : Addr} (hc : p.collected s = some stream)
      (hi : ∀ i call, s.2 ≠ .reader i call) (hfresh : p.native.streams.get? owned = none)
      (hown : p'.native.streams.get? owned = some (some stream))
      (hs : ∀ q, q ≠ owned → p'.native.streams.get? q = p.native.streams.get? q)
      (hr : p'.readers = p.readers ++ [(⟨1, [], 0⟩, ⟨owned, none, false, false⟩)])
  /-- It calls one of them. -/
  | calls {i : Nat} {call : ReaderCall} {r : Arrow × RecordBatchReaderImpl T}
      (hi : s.2 = .reader i call) (hr : p.readers[i]? = some r) (hp : p' = p.read i call r)

/-- Nothing happens to the streams. -/
structure SameStreams (n n' : Native T) : Prop where
  streams : n'.streams = n.streams
  lost : n'.lost = n.lost

/-- Nothing but what is about streams changes them. -/
theorem kept_sameStreams : Kept (SameStreams (T := T)) where
  refl _ := ⟨rfl, rfl⟩
  trans _ _ _ h h' := ⟨h'.streams.trans h.streams, h'.lost.trans h.lost⟩
  log _ _ := ⟨rfl, rfl⟩
  box _ _ := ⟨rfl, rfl⟩
  unbox _ _ _ := ⟨rfl, rfl⟩
  context _ _ _ := ⟨rfl, rfl⟩
  settled _ _ := ⟨rfl, rfl⟩

section ReaderStep

variable {p : Process T} {s : Step T}

/-- A method keeps the readers, unless it adds one. -/
theorem readers_invoke {x : JavaM T α} {store : Process T → α → Process T}
    (hstore : ∀ q a, (store q a).readers = q.readers) :
    (p.invoke x store).2.readers = p.readers := by
  rw [Process.invoke]
  rcases x.exec p.native with ⟨e | a, n⟩
  · rfl
  · exact hstore _ a

/-- A method on an object that may not be there leaves the readers. -/
theorem readers_on {ω : Type} {object : Option ω} {method : ω → Reply × Process T}
    (hm : ∀ w, (method w).2.readers = p.readers) : (p.on object method).2.readers = p.readers := by
  cases object with
  | none => rfl
  | some w => exact hm w

/-- A call that is not about streams leaves the readers. -/
theorem readers_perform (E : Engine T) {call : ApiCall} (h : call.streams = false) :
    (p.perform E call).2.readers = p.readers := by
  cases call with
  | collect | reader => cases h
  | combine d other op =>
      exact readers_on fun w => readers_on fun o => readers_invoke fun _ _ => rfl
  | createRuntime => exact readers_invoke fun _ _ => rfl
  | drop d => exact readers_on fun _ => rfl
  | _ => exact readers_on fun w => readers_invoke fun _ _ => rfl

/-- A step that has nothing to do with streams. -/
theorem readerStep_of_not_streams (h : s.2.streams = false) (hp : p.halted = false) :
    ReaderStep p s (p.after s) := by
  have hstreams : (p.after s).native.streams = p.native.streams :=
    (kept_sameStreams.after s (by simp [h])).streams
  refine .idle ?_ ?_ (fun q x hx => hstreams ▸ hx) (fun _ q => by rw [hstreams]) ?_
  · unfold Process.collected
    split
    · next heq => rw [heq] at h; cases h
    · rfl
  · intro i call heq
    rw [heq] at h
    cases h
  · rw [Process.after, Process.step_of_running s.1 s.2 hp]
    exact readers_perform s.1 h

/-- A collect on an open frame. -/
theorem readerStep_of_collect {E : Engine T} {d : Nat} {env : ArrowEnv}
    {w : DataFusionDataFrameImpl} (hw : p.frame? d = some w) (hne : w.pointer ≠ 0) :
    ReaderStep p (E, .collect d env) (p.perform E (.collect d env)).2 := by
  have hc : p.collected (E, .collect d env) = (createOutcome env
      (collectOutcome E w.runtimePointer w.pointer p.native.boxes)).toOption := by
    change (p.frame? d).bind _ = _
    rw [hw, Option.bind_some, if_neg hne]
  have hcollected := collected_collect E env p.native hne
  simp only [Process.perform, Process.on, hw, Process.invoke]
  rcases hx : (w.collect E env).exec p.native with ⟨out, n⟩
  rw [hx] at hcollected
  cases ho : createOutcome env (collectOutcome E w.runtimePointer w.pointer p.native.boxes) with
  | error e =>
      rw [ho] at hc
      obtain ⟨hout, hsame⟩ := hcollected.failed e ho
      obtain rfl : out = .error e := hout
      refine .idle hc (by simp) hcollected.kept (fun hrun => hsame ?_) rfl
      simpa using hrun
  | ok stream =>
      rw [ho] at hc
      obtain ⟨owned, hout, hfresh, hown, hothers⟩ := hcollected.made stream ho
      obtain rfl : out = .ok (⟨1, [], 0⟩, ⟨owned, none, false, false⟩) := hout
      exact .collects hc (by simp) hfresh hown hothers rfl

/-- **What a step does to the readers.** -/
theorem readerStep (s : Step T) (hp : p.halted = false) : ReaderStep p s (p.after s) := by
  obtain ⟨E, call⟩ := s
  have hafter : ∀ p', (p.perform E call).2 = p' → p.after (E, call) = p' := fun p' h => by
    rw [Process.after, Process.step_of_running _ _ hp, h]
  cases call with
  | reader i call =>
      cases hr : p.readers[i]? with
      | none =>
          rw [hafter p (by rw [Process.perform, hr]; rfl)]
          exact .idle rfl (by rintro _ _ ⟨⟩; exact hr) (fun _ _ h => h) (fun _ _ => rfl) rfl
      | some r => exact .calls rfl hr (hafter _ (by rw [Process.perform, hr]; rfl))
  | collect d env =>
      cases hw : p.frame? d with
      | none =>
          rw [hafter p (by rw [Process.perform, hw]; rfl)]
          refine .idle ?_ (by simp) (fun _ _ h => h) (fun _ _ => rfl) rfl
          change (p.frame? d).bind _ = none
          rw [hw, Option.bind_none]
      | some w =>
          by_cases hne : w.pointer = 0
          · have hstep : (p.perform E (.collect d env)).2 = p := by
              simp only [Process.perform, Process.on, hw, Process.invoke,
                exec_collect_closed E env p.native hne]
              simp [← hp]
            rw [hafter p hstep]
            refine .idle ?_ (by simp) (fun _ _ h => h) (fun _ _ => rfl) rfl
            change (p.frame? d).bind _ = none
            rw [hw, Option.bind_some, if_pos hne]
          · rw [hafter _ rfl]
            exact readerStep_of_collect hw hne
  | _ => exact readerStep_of_not_streams rfl hp

end ReaderStep

/-! ## what the readers stand for -/

/-- What a reader stands for after a step. -/
def readerAfter (s : Step T) (i : Nat) (o : Option (ReaderState T)) : Option (ReaderState T) :=
  match s.2 with
  | .reader j call => if j = i then o.bind fun st => (st.call call).2 else o
  | _ => o

/-- A step that is no call of the reader leaves it. -/
theorem readerAfter_of_not {s : Step T} {i : Nat} (h : ∀ call, s.2 ≠ .reader i call)
    (o : Option (ReaderState T)) : readerAfter s i o = o := by
  unfold readerAfter
  split
  · next j call heq =>
    rw [if_neg]
    rintro rfl
    exact h call heq
  · rfl

section ReaderRun

variable {p : Process T} {states : List (Option (ReaderState T))}

/-- **A step** goes on with the readers there are, and a collect adds one. -/
theorem Reads.after (h : Reads p.native.streams p.readers states) (s : Step T)
    (hp : p.halted = false) :
    ∃ states', Reads (p.after s).native.streams (p.after s).readers states' ∧
      (∀ i o, states[i]? = some o → states'[i]? = some (readerAfter s i o)) ∧
      ∀ stream, p.collected s = some stream →
        states'[p.readers.length]? = some (some ⟨stream.schema, none, stream.batches⟩) := by
  cases readerStep s hp with
  | idle hc hi hs hrun hr =>
      refine ⟨states, hr ▸ h.mono hs, fun i o ho => ?_, fun stream hstream => ?_⟩
      · rw [readerAfter_of_not fun call hcall => ?_, ho]
        rw [h.stands.get_none (hi i call hcall)] at ho
        cases ho
      · rw [hc] at hstream
        cases hstream
  | @collects stream owned hc hi hfresh hown hs hr =>
      refine ⟨_, hr ▸ h.add hfresh hown hs, fun i o ho => ?_, fun stream' hstream => ?_⟩
      · rw [readerAfter_of_not fun call => hi i call,
          List.getElem?_append_left (List.getElem?_eq_some_iff.mp ho).1, ho]
      · rw [hc, Option.some.injEq] at hstream
        rw [h.stands.length_eq, List.getElem?_concat_length, hstream]
  | @calls i call r hi hr hp' =>
      obtain ⟨o, ho, hst⟩ := h.stands.get hr
      have hend := (Reading.reader_call (s := ⟨⟨p.native, r.1⟩, r.2⟩) call hst).2
      refine ⟨states.set i (o.bind fun st => (st.call call).2), by rw [hp']; exact h.read hr hend,
        fun j o' ho' => ?_, fun stream hstream => ?_⟩
      · unfold readerAfter
        rw [hi]
        dsimp only
        by_cases hij : i = j
        · subst hij
          rw [ho, Option.some.injEq] at ho'
          rw [if_pos rfl, List.getElem?_set_self (List.getElem?_eq_some_iff.mp ho).1, ho']
        · rw [if_neg hij, List.getElem?_set_ne hij, ho']
      · unfold Process.collected at hstream
        rw [hi] at hstream
        cases hstream

/-- No live struct is without an open reader. -/
def NoneLost (p : Process T) : Prop :=
  ∀ q, p.native.streams.Live q → ∃ r ∈ p.readers, r.2.closed = false ∧ r.2.owned = q

/-- A reader that still has a struct after a call on another one. -/
theorem exists_after_read {i : Nat} {call : ReaderCall} {r r' : Arrow × RecordBatchReaderImpl T}
    {q : Addr} (hr : p.readers[i]? = some r) (hr' : r' ∈ p.readers) (hopen : r'.2.closed = false)
    (hown : r'.2.owned = q) (hne : r.2.closed = true ∨ r.2.owned ≠ q) :
    ∃ r'' ∈ (p.read i call r).readers, r''.2.closed = false ∧ r''.2.owned = q := by
  obtain ⟨j, hj⟩ := List.mem_iff_getElem?.mp hr'
  have hij : i ≠ j := by
    rintro rfl
    obtain rfl : r = r' := Option.some.inj (hr.symm.trans hj)
    rcases hne with hc | hne
    · rw [hc] at hopen
      cases hopen
    · exact hne hown
  exact ⟨r', List.mem_of_getElem? ((List.getElem?_set_ne hij).trans hj), hopen, hown⟩

/-- A call on a reader loses no struct: only its own can go, and only with
it. -/
theorem NoneLost.read (h : NoneLost p) {i : Nat} {call : ReaderCall}
    {r : Arrow × RecordBatchReaderImpl T} {o : Option (ReaderState T)}
    (hr : p.readers[i]? = some r)
    (hend : ReaderEnds ⟨⟨p.native, r.1⟩, r.2⟩ o (call.run ⟨⟨p.native, r.1⟩, r.2⟩)) :
    NoneLost (p.read i call r) := by
  intro q hq
  by_cases hqo : q = r.2.owned
  · subst hqo
    have hstruct := hend.struct
    cases hc : r.2.closed with
    | true =>
        -- the struct of a closed reader may have become that of another one
        rw [if_pos hc] at hstruct
        obtain ⟨r', hr', hopen, hown⟩ := h r.2.owned (by
          rw [Store.Live, ← hstruct]
          exact hq)
        exact exists_after_read hr hr' hopen hown (.inl hc)
    | false =>
        rw [if_neg (by rw [hc]; simp)] at hstruct
        cases o with
        | none =>
            obtain ⟨x, hx⟩ := Store.live_iff.mp hq
            cases hstruct.symm.trans hx
        | some st =>
            have hlt := (List.getElem?_eq_some_iff.mp hr).1
            exact ⟨_, List.mem_of_getElem? (List.getElem?_set_self hlt), hend.stands.1, hend.owned⟩
  · obtain ⟨r', hr', hopen, hown⟩ := h q (by
      rw [Store.Live, ← hend.others q hqo]
      exact hq)
    exact exists_after_read hr hr' hopen hown (.inr fun he => hqo he.symm)

/-- **A step** that does not take the process down loses no struct. -/
theorem NoneLost.after (h : NoneLost p) (hreads : Reads p.native.streams p.readers states)
    (s : Step T) (hp : p.halted = false) (hrun : (p.after s).halted = false) :
    NoneLost (p.after s) := by
  cases readerStep s hp with
  | idle hc hi hs hsame hr =>
      intro q hq
      rw [Store.Live, hsame hrun q] at hq
      rw [hr]
      exact h q hq
  | @collects stream owned hc hi hfresh hown hs hr =>
      intro q hq
      rw [hr]
      by_cases hqo : q = owned
      · exact ⟨_, List.mem_append_right _ (List.mem_singleton.mpr rfl), rfl, hqo.symm⟩
      · rw [Store.Live, hs q hqo] at hq
        obtain ⟨r, hr', hopen, hown'⟩ := h q hq
        exact ⟨r, List.mem_append_left _ hr', hopen, hown'⟩
  | @calls i call r hi hr hp' =>
      obtain ⟨o, -, hst⟩ := hreads.stands.get hr
      rw [hp']
      exact h.read hr (Reading.reader_call (s := ⟨⟨p.native, r.1⟩, r.2⟩) call hst).2

end ReaderRun

/-! ## the whole heap -/

namespace Process

/-- The streams are in the hands of the readers. -/
structure Held (p : Process T) : Prop where
  reads : ∃ states, Reads p.native.streams p.readers states
  noneLost : p.halted = false → NoneLost p

/-- At the start no reader holds anything. -/
theorem held_start : (start : Process T).Held :=
  ⟨⟨[], reads_nil _⟩, fun _ q hq => by
    obtain ⟨x, hx⟩ := Store.live_iff.mp hq
    rw [start, Native.empty, Store.get?_empty] at hx
    cases hx⟩

/-- One step keeps what the readers hold. -/
theorem Held.after {p : Process T} (h : p.Held) (s : Step T) : (p.after s).Held := by
  cases hp : p.halted with
  | true => rwa [after_of_halted hp]
  | false =>
      obtain ⟨states, hreads⟩ := h.reads
      obtain ⟨states', hreads', -⟩ := hreads.after s hp
      exact ⟨⟨states', hreads'⟩, fun hrun => (h.noneLost hp).after hreads s hp hrun⟩

/-- A whole run keeps it. -/
theorem held_run (steps : List (Step T)) : (start.run steps).Held :=
  steps.foldlRecOn Process.after held_start fun _ h s _ => h.after s

/-! ### lost streams -/

/-- The stream a step loses: that of a collect whose import throws. -/
def loses (p : Process T) (s : Step T) : List (Stream T) :=
  if p.halted then []
  else match s.2 with
    | .collect d env => match p.frame? d with
        | some w =>
            if w.pointer = 0 then []
            else (unimported env
              (collectOutcome s.1 w.runtimePointer w.pointer p.native.boxes)).toList
        | none => []
    | _ => []

/-- The streams a run loses. -/
def lost (p : Process T) (steps : List (Step T)) : List (Stream T) :=
  (observations Process.after loses p steps).flatten

/-- A step that has nothing to do with streams loses none. -/
theorem lost_of_not_streams {p : Process T} {s : Step T} (h : s.2.streams = false) :
    (p.after s).native.lost = p.native.lost ++ p.loses s := by
  have hkept : (p.after s).native.lost = p.native.lost :=
    (kept_sameStreams.after s (by simp [h])).lost
  have hloses : p.loses s = [] := by
    obtain ⟨E, call⟩ := s
    rw [loses]
    split
    · rfl
    · cases call with
      | collect d env => cases h
      | _ => rfl
  rw [hkept, hloses, List.append_nil]

/-- A collect loses its stream if the import throws, and nothing else. -/
theorem lost_of_collect {p : Process T} (hp : p.halted = false) (E : Engine T) (d : Nat)
    (env : ArrowEnv) :
    (p.after (E, .collect d env)).native.lost =
      p.native.lost ++ p.loses (E, .collect d env) := by
  rw [Process.after, step_of_running E _ hp, loses, hp, if_neg Bool.false_ne_true, perform]
  dsimp only
  cases hw : p.frame? d with
  | none => exact (List.append_nil _).symm
  | some w =>
      rw [on, invoke]
      dsimp only
      by_cases hne : w.pointer = 0
      · rw [exec_collect_closed E env p.native hne, if_pos hne]
        exact (List.append_nil _).symm
      · have hlost := (collected_collect E env p.native hne).lost
        rw [if_neg hne, ← hlost]
        rcases (w.collect E env).exec p.native with ⟨e | reader, n⟩ <;> rfl

/-- A call on a reader loses no stream: only a close gives a struct back, and
it releases the stream first. -/
theorem lost_of_reader {p : Process T} (h : p.Held) (hp : p.halted = false) (E : Engine T) (i : Nat)
    (call : ReaderCall) :
    (p.after (E, .reader i call)).native.lost = p.native.lost ++ p.loses (E, .reader i call) := by
  have hloses : p.loses (E, .reader i call) = [] := by
    rw [loses, hp]
    rfl
  rw [hloses, List.append_nil, Process.after, step_of_running E _ hp, perform]
  cases hr : p.readers[i]? with
  | none => rfl
  | some r =>
      obtain ⟨states, hreads⟩ := h.reads
      obtain ⟨o, -, hst⟩ := hreads.stands.get hr
      exact (Reading.reader_call (s := ⟨⟨p.native, r.1⟩, r.2⟩) call hst).2.lost

/-- **What a step loses** is what is added to the lost streams. -/
theorem lost_after {p : Process T} (h : p.Held) (s : Step T) :
    (p.after s).native.lost = p.native.lost ++ p.loses s := by
  cases hp : p.halted with
  | true =>
      rw [after_of_halted hp, loses, hp, if_pos rfl, List.append_nil]
  | false =>
      obtain ⟨E, call⟩ := s
      cases call with
      | collect d env => exact lost_of_collect hp E d env
      | reader i call => exact lost_of_reader h hp E i call
      | _ => exact lost_of_not_streams rfl

/-- The lost streams after a run are those its steps have lost. -/
theorem lost_run (steps : List (Step T)) :
    (start.run steps : Process T).native.lost = start.lost steps :=
  ledger_foldl (fun p : Process T => p.native.lost) (I := Held) (fun _ s h => h.after s)
    (fun _ s h => lost_after h s) held_start steps

/-! ### structs and readers -/

/-- A reader is open, and this is its struct. -/
def OpenOn (p : Process T) (i : Nat) (q : Addr) : Prop :=
  ∃ r, p.readers[i]? = some r ∧ r.2.closed = false ∧ r.2.owned = q

/-- **The structs and the readers.**  After any run that has not taken the
process down, whatever was thrown on the way, every live `ArrowArrayStream`
struct is owned by exactly one open reader and every open reader owns a live
one; and every closed reader has released its stream once and closed its
allocator once, with nothing outstanding. -/
theorem structs_owned (steps : List (Step T)) (hrun : (start.run steps).halted = false) :
    (∀ q, (start.run steps).native.streams.Live q ↔ ∃! i, (start.run steps).OpenOn i q) ∧
    (∀ i q, (start.run steps).OpenOn i q → (start.run steps).native.streams.Live q) ∧
    ∀ r ∈ (start.run steps).readers, r.2.closed = true → r.1 = ⟨0, [0], 1⟩ := by
  obtain ⟨⟨states, hreads⟩, hlost⟩ := held_run steps
  have hlive : ∀ i q, (start.run steps).OpenOn i q → (start.run steps).native.streams.Live q := by
    rintro i q ⟨r, hi, hopen, rfl⟩
    exact hreads.live (List.mem_of_getElem? hi) hopen
  refine ⟨fun q => ⟨fun hq => ?_, ?_⟩, hlive, fun r hr hclosed => ?_⟩
  · obtain ⟨r, hr, hopen, hown⟩ := hlost hrun q hq
    obtain ⟨i, hi⟩ := List.mem_iff_getElem?.mp hr
    refine ⟨i, ⟨r, hi, hopen, hown⟩, ?_⟩
    rintro j ⟨r', hj, hopen', hown'⟩
    exact hreads.apart hj hi hopen' hopen (hown'.trans hown.symm)
  · rintro ⟨i, hopen, -⟩
    exact hlive i q hopen
  · obtain ⟨i, hi⟩ := List.mem_iff_getElem?.mp hr
    obtain ⟨o, -, hst⟩ := hreads.stands.get hi
    cases o with
    | none => exact hst.2
    | some st =>
        rw [hst.1] at hclosed
        cases hclosed

/-- A reader is closed, and the same frame is collected once more. -/
def collectAgain : List (Step planTypes) :=
  [.createRuntime, .newSession 0, .sql 0 (some (encodeUtf16 "SELECT 1".toList)),
    .collect 0 ⟨none, none, none⟩, .reader 0 (.next none), .reader 0 (.close none),
    .collect 0 ⟨none, none, none⟩].map (planEngine, ·)

/-- The second reader is the one that owns a struct, and the first one has
given back what it had. -/
theorem structs_owned_collectAgain :
    ((start.run collectAgain).native.streams.Live 4 ∧ ∃! i, (start.run collectAgain).OpenOn i 4) ∧
      ∃ r, (start.run collectAgain).readers[0]? = some r ∧ r.2.closed = true ∧
        r.1 = ⟨0, [0], 1⟩ := by
  obtain ⟨howned, hlive, hclosed⟩ := structs_owned collectAgain rfl
  have hlive4 := hlive 1 4 ⟨_, rfl, rfl, rfl⟩
  exact ⟨⟨hlive4, (howned 4).mp hlive4⟩, _, rfl, rfl, hclosed _ (List.mem_of_getElem? (i := 0) rfl)
    rfl⟩

/-! ### nothing is left -/

/-- The program has closed whatever it has opened. -/
structure AllClosed (p : Process T) : Prop where
  wrappers : p.handles = []
  readers : ∀ r ∈ p.readers, r.2.closed = true

/-- There is no object, no result and no struct on the native side, and of
what was behind the structs there are these streams. -/
structure Leaves (n : Native T) (streams : List (Stream T)) : Prop where
  objects : ∀ a, ¬ n.boxes.Live a
  results : ∀ a, ¬ n.results.Live a
  structs : ∀ a, ¬ n.streams.Live a
  lost : n.lost = streams

/-- When all is closed, the lost streams are all that is left. -/
theorem leaves_of_allClosed (steps : List (Step T)) (hrun : (start.run steps).halted = false)
    (hclosed : (start.run steps).AllClosed) :
    Leaves (start.run steps).native (start.lost steps) := by
  obtain ⟨-, hlost⟩ := held_run steps
  refine ⟨fun a hbox => ?_, no_result_left steps, fun a hstruct => ?_, lost_run steps⟩
  · obtain ⟨o, ho⟩ := Store.live_iff.mp hbox
    have hkind : (start.run steps).native.kind? a = some o.kind := by rw [Native.kind?, ho]; rfl
    have hmem := ((owned_run steps).alive o.kind a).mp hkind
    rw [hclosed.wrappers] at hmem
    cases hmem
  · obtain ⟨r, hr, hopen, -⟩ := hlost hrun a hstruct
    rw [hclosed.readers r hr] at hopen
    cases hopen

/-- **What is left.**  When everything has been closed after a run that has
not taken the process down, in any order and whatever was thrown on the way,
the native side has nothing but the streams of the collects whose import
threw, each of them once. -/
theorem nothing_left (steps : List (Step T)) (hrun : (start.run steps).halted = false)
    (hclosed : (start.run steps).AllClosed) :
    Leaves (start.run steps).native (start.lost steps) :=
  leaves_of_allClosed steps hrun hclosed

/-- A frame is collected twice, and the second import throws. -/
def collectTwice : List (Step planTypes) :=
  [.createRuntime, .newSession 0, .sql 0 (some (encodeUtf16 "SELECT 1".toList)),
    .collect 0 ⟨none, none, none⟩, .collect 0 ⟨none, none, some (.library "IOException")⟩,
    .closeFrame 0, .closeSession 0, .closeRuntime 0, .reader 0 (.next none)].map (planEngine, ·)

/-- The stream whose import threw is left and nothing else; where no import
throws, nothing at all is. -/
theorem nothing_left_collectTwice :
    (start.run (collectTwice ++ [(planEngine, .reader 0 (.close none))])).AllClosed ∧
      Leaves (start.run (collectTwice ++ [(planEngine, .reader 0 (.close none))])).native
        [(⟨(), [1]⟩ : Stream planTypes)] ∧
      Leaves (start.run (collectAgain ++ [(planEngine, .closeFrame 0),
        (planEngine, .closeSession 0), (planEngine, .reader 1 (.close none)),
        (planEngine, .closeRuntime 0)])).native [] := by
  have hclosed : (start.run (collectTwice ++ [(planEngine, .reader 0 (.close none))])).AllClosed :=
    ⟨rfl, by decide⟩
  have hclosed' : (start.run (collectAgain ++ [(planEngine, .closeFrame 0),
      (planEngine, .closeSession 0), (planEngine, .reader 1 (.close none)),
      (planEngine, .closeRuntime 0)])).AllClosed := ⟨rfl, by decide⟩
  exact ⟨hclosed, nothing_left _ rfl hclosed, nothing_left _ rfl hclosed'⟩

end Process

end DataFusionPanama
