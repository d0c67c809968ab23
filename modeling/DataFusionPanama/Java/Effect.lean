import DataFusionPanama.Java.Api
import DataFusionPanama.Java.Marshal

/-!
# DataFusionPanama.Java.Effect

What a method does to the native objects.  `Called` says what one native
call can leave: one new object if the function creates and the call
succeeds, and otherwise nothing but its entry in the trace.  `Reaches` adds
when the call is made at all.  There is one `reaches_*` theorem a method,
and nothing later looks inside a method again.
-/

namespace DataFusionPanama

open Native (Same)

variable {T : Types} {α : Type}

namespace Native

/-- Logging the same keeps two states the same. -/
theorem Same.log {a b : Native T} (h : Same a b) (e : Event) : Same (a.log e) (b.log e) :=
  ⟨h.kind?, h.next, by rw [trace_log, trace_log, h.trace]⟩

/-- Boxing the same keeps two states the same. -/
theorem Same.box {a b : Native T} (h : Same a b) (o : Obj T) : Same (a.box o) (b.box o) :=
  ⟨fun p => by rw [kind?_box, kind?_box, h.next, h.kind?], by rw [next_box, next_box, h.next],
    by rw [trace_box, trace_box, h.trace, h.next]⟩

/-- The streams are no objects. -/
theorem Same.of_streams (n : Native T) (streams : Store (Option (Stream T)))
    {lost : List (Stream T)} : Same n { n with streams := streams, lost := lost } :=
  ⟨fun _ => rfl, rfl, rfl⟩

end Native

/-! ## one native call -/

/-- What a call leaves.  `made` relates the value the native function
returns to the value of the method. -/
def Called (c : Downcall) (made : Addr → α → Prop) (n : Native T) :
    Except Stop α × Native T → Prop
  | (.ok a, n') => ∃ v, made v a ∧ match c.creates with
      | some k => v = n.next ∧ ∃ o : Obj T, o.kind = k ∧ Same ((n.log (.call c)).box o) n'
      | none => Same (n.log (.call c)) n'
  | (.error _, n') => Same (n.log (.call c)) n'

/-- A call that creates nothing is known by the state it leaves. -/
theorem called_of_creates_none {c : Downcall} (hc : c.creates = none) {n : Native T}
    {out : Except Stop α × Native T} (hs : Same (n.log (.call c)) out.2) :
    Called c (fun _ _ => True) n out := by
  rcases out with ⟨e | a, n'⟩
  · exact hs
  · refine ⟨0, trivial, ?_⟩
    rw [hc]
    exact hs

/-- How a body that fails is settled. -/
private theorem called_error {c : Downcall} {E : Engine T} {mem : Mem} {n n₁ : Native T} {f : Fault}
    (hb : (c.body E mem).exec (n.log (.call c)) = (.error f, n₁))
    (hs : Same (n.log (.call c)) n₁) : Called c (fun v a => a = v) n ((call E mem c).exec n) := by
  by_cases hnul : nul ∈ f.text
  · rw [exec_call_aborted _ _ hb hnul]
    exact hs
  · rw [exec_call _ _ hb (by rintro _ ⟨⟩; exact hnul)]
    exact hs.trans (Native.same_settled _ _)

/-- **A native call** creates what its function announces, and only when it
succeeds. -/
theorem called_call (E : Engine T) (mem : Mem) (c : Downcall) (n : Native T) :
    Called c (fun v a => a = v) n ((call E mem c).exec n) := by
  have hbody := body_cases E mem c
  cases hc : c.creates with
  | some k =>
      rw [hc] at hbody
      obtain ⟨n₁, hs, ⟨o, ho, hb⟩ | ⟨f, hb⟩⟩ := hbody (n.log (.call c))
      · rw [exec_call _ _ hb (by simp)]
        refine ⟨n₁.next, rfl, ?_⟩
        rw [hc]
        exact ⟨hs.next, o, ho, (hs.box o).trans (Native.same_settled _ _)⟩
      · exact called_error hb hs
  | none =>
      rw [hc] at hbody
      have hs := hbody (n.log (.call c))
      rcases hb : (c.body E mem).exec (n.log (.call c)) with ⟨f | v, n₁⟩ <;> rw [hb] at hs
      · exact called_error hb hs
      · rw [exec_call _ _ hb (by simp)]
        refine ⟨v, rfl, ?_⟩
        rw [hc]
        exact Same.trans hs (Native.same_settled _ _)

/-- The value of a call, wrapped up. -/
theorem called_map {E : Engine T} {mem : Mem} {c : Downcall} {n : Native T} (f : Addr → α) :
    Called c (fun v a => a = f v) n ((do
      let v ← call E mem c
      pure (f v) : JavaM T α).exec n) := by
  have h := called_call E mem c n
  rcases hr : (call E mem c).exec n with ⟨e | v, n'⟩ <;> rw [hr] at h
  · rw [Prog.exec_bind_error hr]
    exact h
  · rw [Prog.exec_bind_ok hr, Prog.exec_pure]
    obtain ⟨v', rfl, hc⟩ := h
    exact ⟨v, rfl, hc⟩

/-! ## methods -/

/-- A method throws before it makes a call, or makes a call with these
handles of a function that creates this. -/
structure Reaches (reach : Prop) (handles : List (Kind × Addr)) (creates : Option Kind)
    (made : Addr → α → Prop) (n : Native T) (out : Except Stop α × Native T) : Prop where
  rejected : ¬ reach → ∃ t n', out = (.error (.thrown t), n') ∧ Same n n'
  called : reach → ∃ c : Downcall, c.handles = handles ∧ c.creates = creates ∧ Called c made n out

section Reaches

variable {reach : Prop} {handles : List (Kind × Addr)} {creates : Option Kind}
  {made : Addr → α → Prop} {n : Native T}

/-- A method that has no reason not to make its call. -/
theorem reaches_of_called {c : Downcall} {out : Except Stop α × Native T}
    (h : Called c made n out) : Reaches True c.handles c.creates made n out :=
  ⟨fun hn => absurd trivial hn, fun _ => ⟨c, rfl, rfl, h⟩⟩

/-- A `catch` that only wraps what is thrown. -/
theorem Reaches.tryNative {x : JavaM T α} (h : Reaches reach handles creates made n (x.exec n)) :
    Reaches reach handles creates made n ((tryNative x).exec n) := by
  have hexec : (DataFusionPanama.tryNative x).exec n =
      ((x.exec n).1.mapError _, (x.exec n).2) := rfl
  rcases hr : x.exec n with ⟨(t | -) | a, n'⟩ <;> rw [hr] at h hexec <;> rw [hexec]
  · refine ⟨fun hn => ?_, fun hy => ?_⟩
    · obtain ⟨t', n'', heq, hs⟩ := h.rejected hn
      cases heq
      cases t <;> exact ⟨_, n', rfl, hs⟩
    · obtain ⟨c, hh, hc, hcalled⟩ := h.called hy
      exact ⟨c, hh, hc, hcalled⟩
  · refine ⟨fun hn => ?_, fun hy => ?_⟩
    · obtain ⟨t', n'', heq, -⟩ := h.rejected hn
      cases heq
    · obtain ⟨c, hh, hc, hcalled⟩ := h.called hy
      exact ⟨c, hh, hc, hcalled⟩
  · exact h

/-- A step that throws, or goes on without touching anything. -/
def Checks {β : Type} (x : JavaM T β) (ok : Prop) (post : β → Prop) : Prop :=
  ∀ n, (¬ ok ∧ ∃ t, x.exec n = (.error (.thrown t), n)) ∨ ok ∧ ∃ b, post b ∧ x.exec n = (.ok b, n)

/-- A check in front: the call is reached if the check passes, too. -/
theorem Reaches.check {β : Type} {x : JavaM T β} {ok : Prop} {post : β → Prop} {f : β → JavaM T α}
    (hx : Checks x ok post)
    (h : ∀ b, ok → post b → Reaches reach handles creates made n ((f b).exec n)) :
    Reaches (ok ∧ reach) handles creates made n ((x >>= f).exec n) := by
  obtain ⟨hok, t, hexec⟩ | ⟨hok, b, hpost, hexec⟩ := hx n
  · rw [Prog.exec_bind_error hexec]
    exact ⟨fun _ => ⟨t, n, rfl, .refl n⟩, fun hy => absurd hy.1 hok⟩
  · rw [Prog.exec_bind_ok hexec]
    have hb := h b hok hpost
    exact ⟨fun hn => hb.rejected fun hy => hn ⟨hok, hy⟩, fun hy => hb.called hy.2⟩

/-- Reading a pointer field is a check. -/
theorem checks_openPointer (pointer : Addr) (message : String) :
    Checks (T := T) (openPointer pointer message) (pointer ≠ 0) (· = pointer) := by
  intro n
  by_cases hp : pointer = 0
  · exact .inl ⟨fun h => h hp, _, by rw [openPointer, if_pos hp]; rfl⟩
  · exact .inr ⟨hp, pointer, rfl, by rw [openPointer, if_neg hp]; rfl⟩

/-- A check of the wrapper's own pointer. -/
theorem Reaches.openPointer {pointer : Addr} {message : String} {f : Addr → JavaM T α}
    (h : pointer ≠ 0 → Reaches reach handles creates made n ((f pointer).exec n)) :
    Reaches (pointer ≠ 0 ∧ reach) handles creates made n
      ((openPointer pointer message >>= f).exec n) :=
  .check (checks_openPointer pointer message) fun _ hp hb => hb ▸ h hp

/-- Arguments that cannot be allocated. -/
theorem Reaches.confined {β : Type} {x : ArenaM β} {ok : Prop} {post : Mem → β → Prop}
    {f : β × Mem → JavaM T α} (hx : Yields x ok post)
    (h : ∀ b mem, post mem b → Reaches reach handles creates made n ((f (b, mem)).exec n)) :
    Reaches (ok ∧ reach) handles creates made n ((confined x >>= f).exec n) := by
  rcases exec_confined hx f n with ⟨hok, t, hexec⟩ | ⟨hok, b, mem, hpost, hexec⟩
  · rw [hexec]
    exact ⟨fun _ => ⟨t, n, rfl, .refl n⟩, fun hy => absurd hy.1 hok⟩
  · rw [hexec]
    have hb := h b mem hpost
    exact ⟨fun hn => hb.rejected fun hy => hn ⟨hok, hy⟩, fun hy => hb.called hy.2⟩

/-- The same condition, and a weaker result. -/
theorem Reaches.imp {reach' : Prop} {made' : Addr → α → Prop} {out : Except Stop α × Native T}
    (h : Reaches reach handles creates made n out) (hr : reach ↔ reach')
    (hm : ∀ v a, made v a → made' v a) : Reaches reach' handles creates made' n out := by
  refine ⟨fun hn => h.rejected fun hy => hn (hr.mp hy), fun hy => ?_⟩
  obtain ⟨c, hh, hc, hcalled⟩ := h.called (hr.mpr hy)
  refine ⟨c, hh, hc, ?_⟩
  rcases out with ⟨e | a, n'⟩
  · exact hcalled
  · obtain ⟨v, hv, hrest⟩ := hcalled
    exact ⟨v, hm v a hv, hrest⟩

end Reaches

section Methods

variable (E : Engine T) (n : Native T)

/-- The common end of the methods: the wrapper's own pointer is looked at,
the call is made, and its value is wrapped up. -/
theorem reaches_open {E : Engine T} {n : Native T} {mem : Mem} (c : Addr → Downcall) (f : Addr → α)
    (pointer : Addr) (message : String) :
    Reaches (pointer ≠ 0) (c pointer).handles (c pointer).creates (fun v a => a = f v) n
      ((openPointer pointer message >>= fun p => do
        let v ← call E mem (c p)
        pure (f v) : JavaM T α).exec n) :=
  (Reaches.openPointer fun _ => reaches_of_called (called_map f)).imp (and_iff_left trivial)
    fun _ _ h => h

/-- `DataFusionRuntime.create` always gets to the native side. -/
theorem reaches_createRuntime :
    Reaches True [] (some .runtime) (fun v w => w = ⟨v⟩) n
      ((DataFusionRuntimeImpl.create E).exec n) :=
  (reaches_of_called (called_map (c := .runtimeNew) DataFusionRuntimeImpl.mk)).tryNative

/-- `newSession` gets there from an open runtime. -/
theorem reaches_newSession (w : DataFusionRuntimeImpl) :
    Reaches (w.pointer ≠ 0) [(.runtime, w.pointer)] (some .session)
      (fun v s => s = ⟨v, w.pointer⟩) n ((w.newSession E).exec n) :=
  (Reaches.openPointer fun _ =>
    (reaches_of_called (called_map (c := .sessionNew w.pointer)
      fun v => DataFusionSessionImpl.mk v w.pointer)).tryNative).imp (and_iff_left trivial)
    fun _ _ h => h

/-- `sql` gets there from an open session with a query. -/
theorem reaches_sql (w : DataFusionSessionImpl) (query : JArg) :
    Reaches (JArg.Given query ∧ w.pointer ≠ 0)
      [(.runtime, w.runtimePointer), (.session, w.pointer)] (some .dataframe)
      (fun v d => d = .new v w.runtimePointer) n ((w.sql E query).exec n) := by
  refine .tryNative (.confined (allocateFrom_yields query) fun sql mem _ => ?_)
  exact reaches_open (.sessionSql w.runtimePointer · sql)
    (DataFusionDataFrameImpl.new · w.runtimePointer) w.pointer _

/-- The two registration methods. -/
theorem reaches_register (w : DataFusionSessionImpl)
    {function : Addr → Addr → Addr → Addr → Downcall}
    (hfun : ∀ r s a b, (function r s a b).handles = [(.runtime, r), (.session, s)] ∧
      (function r s a b).creates = none) (tableName path : JArg) :
    Reaches ((JArg.Given tableName ∧ JArg.Given path) ∧ w.pointer ≠ 0)
      [(.runtime, w.runtimePointer), (.session, w.pointer)] none (fun _ _ => True) n
      ((w.register E function tableName path).exec n) := by
  refine .tryNative (.confined (allocateNameAndPath_yields tableName path) fun segments mem _ => ?_)
  obtain ⟨name, pathName⟩ := segments
  obtain ⟨hh, hc⟩ := hfun w.runtimePointer w.pointer name pathName
  rw [← hh, ← hc]
  exact (reaches_open (function w.runtimePointer · name pathName) (fun _ => ()) w.pointer _).imp
    Iff.rfl fun _ _ _ => trivial

/-- A frame method gets there from an open frame with its arguments. -/
theorem reaches_transform (w : DataFusionDataFrameImpl) (op : UnaryOp JArg JArgs) :
    Reaches (op.Given ∧ w.pointer ≠ 0) [(.runtime, w.runtimePointer), (.dataframe, w.pointer)]
      (some .dataframe) (fun v d => d = .new v w.runtimePointer) n ((w.transform E op).exec n) := by
  refine .tryNative (.confined op.marshal_yields fun op' mem _ => ?_)
  exact reaches_open (.unary op' w.runtimePointer ·)
    (DataFusionDataFrameImpl.new · w.runtimePointer) w.pointer _

/-- `count` gets there from an open frame. -/
theorem reaches_count (w : DataFusionDataFrameImpl) :
    Reaches (w.pointer ≠ 0) [(.runtime, w.runtimePointer), (.dataframe, w.pointer)] none
      (fun v a => a = address v) n ((w.count E).exec n) :=
  .tryNative (reaches_open (.dataframeCount w.runtimePointer ·) address w.pointer _)

/-- The pointer of an operand that may be null. -/
def otherPointer (other : Option DataFusionDataFrameImpl) : Addr :=
  other.elim 0 DataFusionDataFrameImpl.pointer

/-- No join type is null. -/
def BinaryOp.JoinGiven {Strs : Type} : BinaryOp (Option JoinType) Strs → Prop
  | .join none _ _ => False
  | _ => True

/-- Related calls have the same join type. -/
theorem BinaryOp.Rel.joinGiven {Strs Strs' : Type} {S : Strs → Strs' → Prop}
    {op : BinaryOp (Option JoinType) Strs} {op' : BinaryOp (Option JoinType) Strs'}
    (h : op.Rel S op') : op.JoinGiven ↔ op'.JoinGiven := by
  cases op <;> cases op' <;> try contradiction
  case join jt _ _ jt' _ _ => rw [show jt = jt' from h.1]; cases jt' <;> exact Iff.rfl
  all_goals exact Iff.rfl

/-- Taking the number of a join type is a check. -/
theorem checks_nativeValue {Strs : Type} (op : BinaryOp (Option JoinType) Strs) :
    Checks (T := T) op.nativeValue op.JoinGiven fun _ => True := by
  intro n
  cases op with
  | join jt l r =>
      cases jt with
      | none => exact .inl ⟨id, _, rfl⟩
      | some jt => exact .inr ⟨trivial, _, trivial, rfl⟩
  | union => exact .inr ⟨trivial, _, trivial, rfl⟩
  | unionDistinct => exact .inr ⟨trivial, _, trivial, rfl⟩
  | except => exact .inr ⟨trivial, _, trivial, rfl⟩
  | intersect => exact .inr ⟨trivial, _, trivial, rfl⟩

/-- Reading the pointer of the other frame is a check. -/
theorem checks_operandPointer (other : Option DataFusionDataFrameImpl) :
    Checks (T := T) (DataFusionDataFrameImpl.operandPointer other) (otherPointer other ≠ 0)
      (· = otherPointer other) := by
  cases other with
  | none => exact fun n => .inl ⟨fun h => h rfl, _, rfl⟩
  | some o => exact checks_openPointer o.pointer _

/-- A method on two frames gets there from two open frames with its
arguments. -/
theorem reaches_combine (w : DataFusionDataFrameImpl) (other : Option DataFusionDataFrameImpl)
    (op : BinaryOp (Option JoinType) JArgs) :
    Reaches (op.Given ∧ w.pointer ≠ 0 ∧ otherPointer other ≠ 0 ∧ op.JoinGiven)
      [(.runtime, w.runtimePointer), (.dataframe, w.pointer), (.dataframe, otherPointer other)]
      (some .dataframe) (fun v d => d = .new v w.runtimePointer) n
      ((w.combine E other op).exec n) := by
  refine .tryNative (.confined op.marshal_yields fun op' mem hop => ?_)
  rw [← hop.joinGiven, ← and_true op'.JoinGiven]
  refine .openPointer fun _ => .check (checks_operandPointer other) fun p _ hother =>
    .check (checks_nativeValue op') fun op'' _ _ => ?_
  rw [hother]
  exact reaches_of_called (called_map
    (c := .binary op'' w.runtimePointer w.pointer (otherPointer other))
    fun v => DataFusionDataFrameImpl.new v w.runtimePointer)

end Methods

/-! ## collecting and reading -/

/-- Nothing happens to the objects of a state's native side. -/
abbrev Undisturbed {σ : Type} (native : σ → Native T) (x : Prog σ Stop α) : Prop :=
  Prog.Keeps (fun s s' => Same (native s) (native s')) x

section Undisturbed

variable {σ β : Type} {native : σ → Native T}

/-- One undisturbed program after another. -/
theorem Undisturbed.bind {x : Prog σ Stop α} {f : α → Prog σ Stop β} (hx : Undisturbed native x)
    (hf : ∀ a, Undisturbed native (f a)) : Undisturbed native (x >>= f) :=
  Prog.Keeps.bind .trans hx hf

theorem undisturbed_pure (a : α) : Undisturbed native (pure a) := fun s => .refl (native s)

theorem undisturbed_throw (e : Stop) : Undisturbed native (throw e : Prog σ Stop α) :=
  fun s => .refl (native s)

theorem undisturbed_reads (f : σ → Except Stop α) : Undisturbed native (.reads f) :=
  fun s => .refl (native s)

theorem undisturbed_throws (t : Option Throwable) : Undisturbed native (throws t) := by
  cases t with
  | none => exact undisturbed_pure ()
  | some t => exact undisturbed_throw (.thrown t)

end Undisturbed

/-- Closing a stream disturbs no object. -/
theorem undisturbed_closeStream (stream : Addr) :
    Undisturbed (T := T) Collect.native (closeStream stream) := by
  refine .updates fun s => ?_
  split
  · exact .of_streams s.native _
  · exact .refl _

theorem undisturbed_closeAllocator : Undisturbed (T := T) Collect.native closeAllocator := by
  refine .bind (.updates fun s => .refl s.native) fun outstanding => ?_
  split
  · exact undisturbed_pure ()
  · exact undisturbed_throw _

theorem undisturbed_importArrayStream (env : ArrowEnv) (stream : Addr) :
    Undisturbed (T := T) Collect.native (importArrayStream env stream) :=
  .bind (undisturbed_throws _) fun _ => .bind (undisturbed_reads _) fun _ =>
    .bind (.updates fun s => .of_streams s.native _) fun _ =>
      .bind (undisturbed_closeStream stream) fun _ => undisturbed_pure _

/-- The inner handler throws again. -/
theorem exec_rethrowClosingStream (stream : Addr) (t : Throwable) (s : Collect T) :
    ∃ t' s', (rethrowClosingStream stream t : ReaderM T α).exec s = (.error (.thrown t'), s') ∧
      Same s.native s'.native :=
  ⟨t, _, rfl, undisturbed_closeStream stream s⟩

/-- The outer handler throws as well, whether or not the allocator can be
closed. -/
theorem exec_rethrowClosingAllocator (t : Throwable) (s : Collect T) :
    ∃ t' s', (rethrowClosingAllocator t : ReaderM T α).exec s = (.error (.thrown t'), s') ∧
      Same s.native s'.native := by
  have hs := undisturbed_closeAllocator s
  unfold rethrowClosingAllocator
  rcases hc : closeAllocator.exec s with ⟨e | u, s'⟩ <;> rw [hc] at hs
  · rw [Prog.exec_bind_error hc]
    have he : ∃ t', e = .thrown t' := by
      simp only [closeAllocator, Prog.exec_bind, Prog.exec_updates] at hc
      split at hc
      · cases hc
      · cases hc; exact ⟨_, rfl⟩
    obtain ⟨t', rfl⟩ := he
    exact ⟨t', s', rfl, hs⟩
  · rw [Prog.exec_bind_ok hc]
    cases t <;> exact ⟨_, s', rfl, hs⟩

section Collect

variable {E : Engine T} {env : ArrowEnv} {runtime dataframe stream : Addr}

/-- The outcome of a computation, as far as a native call can be told from
it. -/
def onNative (out : Except Stop α × Collect T) : Except Stop α × Native T := (out.1, out.2.native)

/-- The handlers of `create` do not change what the call has left. -/
theorem called_catch {c : Downcall} {n : Native T} {x : ReaderM T α}
    {handler : Throwable → ReaderM T α} {s : Collect T}
    (hh : ∀ t s, ∃ t' s', (handler t).exec s = (.error (.thrown t'), s') ∧ Same s.native s'.native)
    (hx : Called c (fun _ _ => True) n (onNative (x.exec s))) :
    Called c (fun _ _ => True) n (onNative ((catchThrowable x handler).exec s)) := by
  rcases hr : x.exec s with ⟨(t | -) | a, s'⟩ <;> rw [hr] at hx
  · rw [exec_catchThrowable_thrown hr]
    obtain ⟨t', s'', hexec, hs⟩ := hh t s'
    rw [hexec]
    exact Same.trans hx hs
  · rw [exec_catchThrowable_aborted hr]
    exact hx
  · rw [exec_catchThrowable_ok hr]
    exact hx

/-- What throws before the call keeps throwing. -/
theorem rejected_catch {n : Native T} {x : ReaderM T α} {handler : Throwable → ReaderM T α}
    {s : Collect T}
    (hh : ∀ t s, ∃ t' s', (handler t).exec s = (.error (.thrown t'), s') ∧ Same s.native s'.native)
    (hx : ∃ t s', x.exec s = (.error (.thrown t), s') ∧ Same n s'.native) :
    ∃ t s', (catchThrowable x handler).exec s = (.error (.thrown t), s') ∧ Same n s'.native := by
  obtain ⟨t, s', hexec, hs⟩ := hx
  obtain ⟨t', s'', hexec', hs'⟩ := hh t s'
  exact ⟨t', s'', by rw [exec_catchThrowable_thrown hexec, hexec'], hs.trans hs'⟩

/-- The downcall of a collect is made. -/
theorem called_collectInto (h : env.invoke = none) (s : Collect T) :
    Called (.dataframeCollect runtime dataframe stream) (fun _ _ => True) s.native
      (onNative ((collectInto E env runtime dataframe stream).exec s)) := by
  have hcall := called_call E .empty (.dataframeCollect runtime dataframe stream) s.native
  rw [collectInto, exec_invokeCollect h]
  rcases hr : (call E .empty (.dataframeCollect runtime dataframe stream)).exec s.native
    with ⟨e | v, n'⟩ <;> rw [hr] at hcall
  · have hin : (inNative (call E .empty (.dataframeCollect runtime dataframe stream))).exec s =
        (.error e, { s with native := n' }) := by rw [inNative, Prog.exec_zoom, hr]
    rw [Prog.exec_bind_error hin]
    exact hcall
  · have hin : (inNative (call E .empty (.dataframeCollect runtime dataframe stream))).exec s =
        (.ok v, { s with native := n' }) := by rw [inNative, Prog.exec_zoom, hr]
    rw [Prog.exec_bind_ok hin]
    obtain ⟨v', -, hcalled⟩ := hcall
    have himport : Undisturbed (T := T) Collect.native (do
        let reader ← importArrayStream env stream
        pure (⟨reader, none, false, false⟩ : RecordBatchReaderImpl T)) :=
      .bind (undisturbed_importArrayStream env stream) fun _ => undisturbed_pure _
    have hs := Same.trans hcalled (himport { s with native := n' })
    exact called_of_creates_none rfl hs

/-- A step before the call that does nothing to the objects. -/
theorem Called.from {c : Downcall} {made : Addr → α → Prop} {n n' : Native T}
    {out : Except Stop α × Native T} (hs : Same n n') (h : Called c made n' out) :
    Called c made n out := by
  rcases out with ⟨e | a, m⟩
  · exact Same.trans (hs.log _) h
  · obtain ⟨v, hv, hc⟩ := h
    refine ⟨v, hv, ?_⟩
    split at hc
    · obtain ⟨hnext, o, ho, hbox⟩ := hc
      exact ⟨hnext.trans hs.next, o, ho, ((hs.log _).box o).trans hbox⟩
    · exact (hs.log _).trans hc

/-- How far `create` gets: to its call, unless the struct cannot be
allocated or the downcall throws. -/
theorem called_create (E : Engine T) (runtime dataframe : Addr) (n : Native T)
    (halloc : env.allocateNew = none) (hinvoke : env.invoke = none) :
    ∃ stream, Called (.dataframeCollect runtime dataframe stream) (fun _ _ => True) n
      (onNative ((RecordBatchReaderImpl.create E env runtime dataframe).exec ⟨n, .new⟩)) := by
  refine ⟨(n.streams.alloc none).1, called_catch exec_rethrowClosingAllocator ?_⟩
  rw [Prog.exec_bind_ok (exec_allocateNew n halloc)]
  exact (called_catch (exec_rethrowClosingStream _) (called_collectInto hinvoke _)).from
    (.of_streams n _)

/-- Without a struct or a downcall the native side is not entered. -/
theorem rejected_create (E : Engine T) (runtime dataframe : Addr) (n : Native T)
    (h : ¬ (env.allocateNew = none ∧ env.invoke = none)) :
    ∃ t s', (RecordBatchReaderImpl.create E env runtime dataframe).exec ⟨n, .new⟩ =
      (.error (.thrown t), s') ∧ Same n s'.native := by
  refine rejected_catch exec_rethrowClosingAllocator ?_
  cases halloc : env.allocateNew with
  | some t =>
      exact ⟨t, ⟨n, .new⟩, Prog.exec_bind_error (exec_allocateNew_error halloc _), .refl n⟩
  | none =>
      rw [Prog.exec_bind_ok (exec_allocateNew n halloc)]
      refine rejected_catch (exec_rethrowClosingStream _) ?_
      cases hinvoke : env.invoke with
      | none => exact absurd ⟨halloc, hinvoke⟩ h
      | some t => exact ⟨_, _, exec_collectInto_error hinvoke _, .of_streams n _⟩

end Collect

/-- `collect` gets there from an open frame, if Arrow does not throw before.
-/
theorem reaches_collect (E : Engine T) (n : Native T) (w : DataFusionDataFrameImpl)
    (env : ArrowEnv) :
    Reaches (w.pointer ≠ 0 ∧ env.allocateNew = none ∧ env.invoke = none)
      [(.runtime, w.runtimePointer), (.dataframe, w.pointer)] none (fun _ _ => True) n
      ((w.collect E env).exec n) := by
  refine .openPointer fun _ => ⟨fun hn => ?_, fun h => ?_⟩
  · obtain ⟨t, s', hexec, hs⟩ := rejected_create E w.runtimePointer w.pointer n hn
    refine ⟨t, s'.native, ?_, hs⟩
    unfold Prog.exec at hexec ⊢
    simp only [ExceptT.run, StateT.run] at hexec ⊢
    rw [hexec]
  · obtain ⟨stream, hcalled⟩ := called_create E w.runtimePointer w.pointer n h.1 h.2
    refine ⟨.dataframeCollect w.runtimePointer w.pointer stream, rfl, rfl, ?_⟩
    unfold Prog.exec at hcalled ⊢
    simp only [ExceptT.run, StateT.run] at hcalled ⊢
    rcases hexec : RecordBatchReaderImpl.create E env w.runtimePointer w.pointer ⟨n, .new⟩
      with ⟨e | a, s'⟩ <;> rw [hexec] at hcalled
    · exact hcalled
    · exact hcalled

section Readers

/-- The objects of the native side a reader is on. -/
abbrev Reading.native (s : Reading T) : Native T := s.collect.native

open Reading

/-- Reading a batch disturbs no object. -/
theorem undisturbed_loadNextBatch : Undisturbed (T := T) Reading.native loadNextBatch := by
  refine .bind (undisturbed_reads _) fun stream => ?_
  split
  · exact .updates fun s => .refl s.native
  · exact .updates fun s => .of_streams s.native _

/-- Nor does closing a reader. -/
theorem undisturbed_closeReader (io : Option JString) :
    Undisturbed (T := T) Reading.native (Reading.close io) := by
  have hin : ∀ {x : ReaderM T Unit}, Undisturbed Collect.native x →
      Undisturbed Reading.native (inCollect x) := fun hx s => hx s.collect
  refine .bind (undisturbed_reads _) fun closed => ?_
  split
  · exact undisturbed_pure ()
  · refine .bind (.updates fun s => .refl s.native) fun _ => .bind ?_ fun _ =>
      .bind (hin undisturbed_closeAllocator) fun _ => ?_
    · exact .bind (.updates fun s => .of_streams s.native _) fun _ =>
        .bind (undisturbed_reads _) fun owned => hin (undisturbed_closeStream owned)
    · split
      · exact undisturbed_throw _
      · exact undisturbed_pure ()

/-- **No call on a reader touches the objects.** -/
theorem same_readerCall (s : Reading T) (c : ReaderCall) : Same s.native (c.run s).native := by
  have hchecked : ∀ {β : Type} {f : Unit → Prog (Reading T) Stop β},
      (∀ u, Undisturbed Reading.native (f u)) → Undisturbed Reading.native (checkOpen >>= f) :=
    fun hf => .bind (undisturbed_reads _) hf
  cases c with
  | next io =>
      refine hchecked (fun _ => ?_) s
      cases io with
      | none => exact undisturbed_loadNextBatch
      | some e => exact undisturbed_throw _
  | getSchema io =>
      refine hchecked (fun _ => ?_) s
      cases io with
      | none => exact .bind (undisturbed_reads _) fun _ => undisturbed_pure _
      | some e => exact undisturbed_throw _
  | getCurrentBatch io =>
      refine hchecked (fun _ => ?_) s
      cases io with
      | none => exact undisturbed_reads _
      | some e => exact undisturbed_throw _
  | close io => exact undisturbed_closeReader io s

end Readers

/-! ## closing -/

/-- `X_free` on a pointer field, which may have been cleared. -/
def Native.release (k : Kind) (p : Addr) (n : Native T) : Native T :=
  if p = 0 then n else n.unbox k p

/-- A release leaves the other objects. -/
theorem Native.kind?_release (n : Native T) (k : Kind) (p q : Addr) :
    (n.release k p).kind? q = if q = p then none else n.kind? q := by
  unfold Native.release
  split
  · next hp =>
    subst hp
    split
    · next hq => rw [hq, Native.kind?_null]
    · rfl
  · exact Native.kind?_unbox n k p q

/-- `close` of a runtime: a release, and a null pointer. -/
theorem exec_closeRuntime (w : DataFusionRuntimeImpl) (n : Native T) :
    w.close.exec n = (.ok ⟨0⟩, n.release .runtime w.pointer) := by
  obtain ⟨p⟩ := w
  unfold DataFusionRuntimeImpl.close Native.release
  by_cases hp : p = 0
  · subst hp
    rfl
  · rw [if_neg hp, if_neg hp, Prog.exec_bind, Prog.exec_updates, runtimeFree, if_neg hp]
    rfl

theorem exec_closeSession (w : DataFusionSessionImpl) (n : Native T) :
    w.close.exec n = (.ok ⟨0, w.runtimePointer⟩, n.release .session w.pointer) := by
  obtain ⟨p, r⟩ := w
  unfold DataFusionSessionImpl.close Native.release
  by_cases hp : p = 0
  · subst hp
    rfl
  · rw [if_neg hp, if_neg hp, Prog.exec_bind, Prog.exec_updates, sessionFree, if_neg hp]
    rfl

/-- A frame that is cleaned for the first time. -/
theorem exec_clean_of_not {w : DataFusionDataFrameImpl} (h : w.cleaned = false) (n : Native T) :
    w.clean.exec n = (.ok ⟨0, w.runtimePointer, true⟩, n.release .dataframe w.pointer) := by
  obtain ⟨p, r, c⟩ := w
  subst h
  unfold DataFusionDataFrameImpl.clean DataFusionDataFrameImpl.run Native.release
  by_cases hp : p = 0
  · subst hp
    rfl
  · rw [if_neg Bool.false_ne_true, if_neg hp, if_neg hp, Prog.exec_bind, Prog.exec_bind,
      Prog.exec_updates, dataframeFree, if_neg hp]
    rfl

/-- A frame that has been cleaned is not cleaned again. -/
theorem exec_clean_of_cleaned {w : DataFusionDataFrameImpl} (h : w.cleaned = true) (n : Native T) :
    w.clean.exec n = (.ok w, n) := by
  rw [DataFusionDataFrameImpl.clean, h]
  rfl

end DataFusionPanama
