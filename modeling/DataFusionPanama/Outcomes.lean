import DataFusionPanama.Library
import DataFusionPanama.Refine

/-!
# DataFusionPanama.Outcomes

What every method of the wrappers does, by what its wrapper stands for.
There is one `ends_*` theorem a method: whatever the arguments are and
whether or not the wrappers are open, the method ends as its outcome in
`Library` says, and leaves the boxes with the object that outcome asks for
and with nothing else changed.

The only assumption is that the runtime is live if the method gets as far
as its native call; `Stands` says what a wrapper stands for.
-/

namespace DataFusionPanama

variable {T : Types} {α β : Type}

/-! ## null arguments -/

/-- The computation throws nothing else. -/
def OnlyThrows (t : Throwable) (x : ArenaM α) : Prop :=
  ∀ mem e mem', x.exec mem = (.error e, mem') → e = t

theorem onlyThrows_pure (t : Throwable) (a : α) : OnlyThrows t (pure a) :=
  fun _ _ _ h => by cases h

theorem onlyThrows_updates (t : Throwable) (f : Mem → α × Mem) : OnlyThrows t (.updates f) :=
  fun _ _ _ h => by cases h

/-- One allocation after another. -/
theorem OnlyThrows.bind {t : Throwable} {x : ArenaM α} {f : α → ArenaM β} (hx : OnlyThrows t x)
    (hf : ∀ a, OnlyThrows t (f a)) : OnlyThrows t (x >>= f) := by
  intro mem e mem' h
  rcases hr : x.exec mem with ⟨e' | a, mem₁⟩
  · rw [Prog.exec_bind_error hr] at h
    cases h
    exact hx mem _ _ hr
  · rw [Prog.exec_bind_ok hr] at h
    exact hf a mem₁ e mem' h

/-- A string throws when it is null. -/
theorem onlyThrows_allocateFrom (arg : JArg) :
    OnlyThrows .nullPointerException (allocateFrom arg) := by
  cases arg with
  | none => intro mem e mem' h; cases h; rfl
  | some s => exact onlyThrows_updates _ _

/-- The loop over an array throws at a null element. -/
theorem onlyThrows_fillStringArray (array : Addr) (strings : List (Option JString)) (i : Nat) :
    OnlyThrows .nullPointerException (fillStringArray array i strings) := by
  induction strings generalizing i with
  | nil => exact onlyThrows_pure _ ()
  | cons s strings ih =>
      exact (onlyThrows_allocateFrom s).bind fun _ => (onlyThrows_updates _ _).bind fun _ =>
        ih (i + 1)

/-- An array throws when it or an element is null. -/
theorem onlyThrows_allocateStringArray (args : JArgs) :
    OnlyThrows .nullPointerException (allocateStringArray args) := by
  cases args with
  | none => intro mem e mem' h; cases h; rfl
  | some strings =>
      exact (onlyThrows_updates _ _).bind fun array =>
        (onlyThrows_fillStringArray array strings 0).bind fun _ => onlyThrows_pure _ _

/-- A frame method's arguments throw for a null only. -/
theorem UnaryOp.onlyThrows_marshal (op : UnaryOp JArg JArgs) :
    OnlyThrows .nullPointerException op.marshal := by
  have hone : ∀ (a : JArg) (f : Addr → UnaryOp Addr StrArray),
      OnlyThrows .nullPointerException (do return f (← allocateFrom a)) := fun a f =>
    (onlyThrows_allocateFrom a).bind fun _ => onlyThrows_pure _ _
  have harray : ∀ (a : JArgs) (f : StrArray → UnaryOp Addr StrArray),
      OnlyThrows .nullPointerException (do return f (← allocateStringArray a)) := fun a f =>
    (onlyThrows_allocateStringArray a).bind fun _ => onlyThrows_pure _ _
  cases op with
  | filter e => exact hone e .filter
  | select es => exact harray es .select
  | limit skip fetch => exact onlyThrows_pure _ _
  | sort es => exact harray es .sort
  | distinct => exact onlyThrows_pure _ _
  | aggregate g a =>
      exact (onlyThrows_allocateStringArray g).bind fun _ =>
        (onlyThrows_allocateStringArray a).bind fun _ => onlyThrows_pure _ _
  | selectColumns cs => exact harray cs .selectColumns
  | dropColumns cs => exact harray cs .dropColumns
  | withColumn n e =>
      exact (onlyThrows_allocateFrom n).bind fun _ => (onlyThrows_allocateFrom e).bind fun _ =>
        onlyThrows_pure _ _
  | withColumnRenamed o n =>
      exact (onlyThrows_allocateFrom o).bind fun _ => (onlyThrows_allocateFrom n).bind fun _ =>
        onlyThrows_pure _ _
  | explain v a => exact onlyThrows_pure _ _

/-- The arguments of a method on two frames throw when one is null. -/
theorem BinaryOp.onlyThrows_marshal {Join : Type} (op : BinaryOp Join JArgs) :
    OnlyThrows .nullPointerException op.marshal := by
  cases op with
  | join jt l r =>
      exact (onlyThrows_allocateStringArray l).bind fun _ =>
        (onlyThrows_allocateStringArray r).bind fun _ => onlyThrows_pure _ _
  | union | unionDistinct | except | intersect => exact onlyThrows_pure _ _

/-- A name and a path throw when one is null. -/
theorem onlyThrows_allocateNameAndPath (name path : JArg) :
    OnlyThrows .nullPointerException (allocateNameAndPath name path) :=
  (onlyThrows_allocateFrom name).bind fun _ => (onlyThrows_allocateFrom path).bind fun _ =>
    onlyThrows_pure _ _

/-- An array of strings has no null in it. -/
theorem JArgs.strings?_java (ss : List JString) :
    JArgs.strings? (some (ss.map some)) = some ss := by
  simpa [JArgs.strings?] using List.mapM_pure (m := Option) (f := id) (l := ss)

/-- An array without a null is one of strings. -/
theorem JArgs.eq_java {args : JArgs} {ss : List JString} (h : args.strings? = some ss) :
    args = some (ss.map some) := by
  obtain ⟨strings, rfl, hs⟩ := Option.bind_eq_some_iff.mp h
  congr 1
  induction strings generalizing ss with
  | nil => cases hs; rfl
  | cons s strings ih =>
      rw [List.mapM_cons] at hs
      obtain ⟨a, ha, hrest⟩ := Option.bind_eq_some_iff.mp hs
      obtain ⟨as, has, heq⟩ := Option.bind_eq_some_iff.mp hrest
      cases heq
      rw [show s = some a from ha, ih has has]
      rfl

/-- A call without a null is one with strings. -/
theorem UnaryOp.eq_java {op : UnaryOp JArg JArgs} {op' : UnaryOp JString (List JString)}
    (h : op.strings? = some op') : op = op'.java := by
  cases op <;> simp only [UnaryOp.strings?, Option.bind_eq_bind, Option.bind_eq_some_iff,
    Option.pure_def, Option.some.injEq] at h
  case limit | distinct | explain => subst h; rfl
  case filter => obtain ⟨e, rfl, rfl⟩ := h; rfl
  case select | sort | selectColumns | dropColumns =>
    obtain ⟨ss, hs, rfl⟩ := h
    rw [JArgs.eq_java hs]
    rfl
  case aggregate =>
    obtain ⟨g, hg, a, ha, rfl⟩ := h
    rw [JArgs.eq_java hg, JArgs.eq_java ha]
    rfl
  case withColumn | withColumnRenamed =>
    obtain ⟨a, rfl, b, rfl, rfl⟩ := h
    rfl

/-- A call with all its arguments has no null in it. -/
theorem UnaryOp.strings?_of_given {op : UnaryOp JArg JArgs} (h : op.Given) :
    ∃ op', op.strings? = some op' := by
  cases op
  case limit | distinct | explain => exact ⟨_, rfl⟩
  case filter => obtain ⟨e, rfl⟩ := h; exact ⟨_, rfl⟩
  case select | sort | selectColumns | dropColumns =>
    obtain ⟨ss, rfl⟩ := h
    exact ⟨_, by rw [UnaryOp.strings?, JArgs.strings?_java]; rfl⟩
  case aggregate =>
    obtain ⟨⟨g, rfl⟩, a, rfl⟩ := h
    exact ⟨_, by rw [UnaryOp.strings?, JArgs.strings?_java, JArgs.strings?_java]; rfl⟩
  case withColumn | withColumnRenamed =>
    obtain ⟨⟨a, rfl⟩, b, rfl⟩ := h
    exact ⟨_, rfl⟩

/-- A call on two frames without a null is one with strings. -/
theorem BinaryOp.eq_strings {Join : Type} {op : BinaryOp Join JArgs}
    {op' : BinaryOp Join (List JString)} (h : op.strings? = some op') :
    op = op'.map id fun ss => some (ss.map some) := by
  cases op <;> simp only [BinaryOp.strings?, Option.bind_eq_bind, Option.bind_eq_some_iff,
    Option.pure_def, Option.some.injEq] at h
  case join =>
    obtain ⟨l, hl, r, hr, rfl⟩ := h
    rw [JArgs.eq_java hl, JArgs.eq_java hr]
    rfl
  all_goals subst h; rfl

/-- With all its arguments it has no null in it. -/
theorem BinaryOp.strings?_of_given {Join : Type} {op : BinaryOp Join JArgs} (h : op.Given) :
    ∃ op', op.strings? = some op' := by
  cases op
  case join =>
    obtain ⟨⟨l, rfl⟩, r, rfl⟩ := h
    exact ⟨_, by rw [BinaryOp.strings?, JArgs.strings?_java, JArgs.strings?_java]; rfl⟩
  all_goals exact ⟨_, rfl⟩

/-- A call with a join type. -/
theorem BinaryOp.eq_joined {Strs : Type} {op : BinaryOp (Option JoinType) Strs}
    {op' : BinaryOp JoinType Strs} (h : op.joined? = some op') : op = op'.map some id := by
  cases op <;> simp only [BinaryOp.joined?, Option.bind_eq_bind, Option.bind_eq_some_iff,
    Option.pure_def, Option.some.injEq] at h
  case join => obtain ⟨jt, rfl, rfl⟩ := h; rfl
  all_goals subst h; rfl

/-! ## how a method ends -/

/-- A wrapper's pointer, and the object it stands for unless it is closed. -/
def Stands (boxes : Store (Obj T)) (pointer : Addr) (object : Option (Obj T)) : Prop :=
  boxes.get? pointer = object ∧ (object = none → pointer = 0)

/-- An open wrapper has its object behind the pointer. -/
theorem Stands.get? {boxes : Store (Obj T)} {pointer : Addr} {o : Obj T}
    (h : Stands boxes pointer (some o)) : boxes.get? pointer = some o := h.1

/-- Its pointer is not null. -/
theorem Stands.ne_null {boxes : Store (Obj T)} {pointer : Addr} {o : Obj T}
    (h : Stands boxes pointer (some o)) : pointer ≠ 0 := by
  rintro rfl
  cases h.1

/-- A method has ended like this and left these boxes; the streams are as
they were. -/
structure Ends (n : Native T) (r : Except Stop α) (boxes : Store (Obj T))
    (out : Except Stop α × Native T) : Prop where
  result : out.1 = r
  boxes : out.2.boxes = boxes
  streams : out.2.streams = n.streams

/-- The boxes after an object has been made, if it has. -/
def boxed {ε : Type} (wrap : β → Obj T) (boxes : Store (Obj T)) : Except ε β → Store (Obj T)
  | .ok b => (boxes.alloc (wrap b)).2
  | .error _ => boxes

/-- A box is made whether the outcome is seen or not. -/
theorem boxed_seen (wrap : β → Obj T) (boxes : Store (Obj T)) (o : Outcome β) :
    boxed wrap boxes (seen o) = boxed wrap boxes o := by
  cases o <;> rfl

section Ends

variable {E : Engine T} {n : Native T} {r : Except Stop α} {boxes : Store (Obj T)}

/-- A fault passes through the handler around a native call. -/
theorem seen_mapError (o : Outcome β) (message : String) :
    (seen o).mapError (Stop.orAssertionError message) = seen o := by
  cases o with
  | ok b => rfl
  | error f =>
      show Except.error (Stop.orAssertionError message f.stop) = Except.error f.stop
      unfold Fault.stop
      split <;> rfl

/-- What is seen needs no wrapping. -/
theorem seen_map_mapError (o : Outcome β) (f : β → α) (message : String) :
    ((seen o).map f).mapError (Stop.orAssertionError message) = (seen o).map f := by
  have h := seen_mapError o message
  cases o with
  | ok b => rfl
  | error e => exact congrArg Except.error (Except.error.inj h)

/-- A `catch` wraps what has been thrown. -/
theorem Ends.tryNative {x : JavaM T α} {r' : Except Stop α} (h : Ends n r boxes (x.exec n))
    (hr : r.mapError (Stop.orAssertionError "unexpected FFI invocation error") = r') :
    Ends n r' boxes ((tryNative x).exec n) := by
  have hexec : (DataFusionPanama.tryNative x).exec n =
      ((x.exec n).1.mapError _, (x.exec n).2) := rfl
  rw [hexec, h.result, hr]
  exact ⟨rfl, h.boxes, h.streams⟩

/-- A method that stops before it does anything. -/
theorem ends_stopped {e : Stop} {out : Except Stop α × Native T} (h : out = (.error e, n)) :
    Ends n (.error e) n.boxes out := by
  rw [h]
  exact ⟨rfl, rfl, rfl⟩

/-- Arguments that arrive. -/
theorem exec_confined_ok {x : ArenaM β} {b : β} {mem : Mem} (h : x.exec .empty = (.ok b, mem))
    (f : β × Mem → JavaM T α) (n : Native T) :
    (confined x >>= f).exec n = (f (b, mem)).exec n := by
  apply Prog.exec_bind_ok
  rw [confined, Prog.exec_reads, h]

/-- A null among the arguments. -/
theorem ends_null {x : ArenaM β} {ok : Prop} {post : Mem → β → Prop} (hy : Yields x ok post)
    (ht : OnlyThrows .nullPointerException x) (hok : ¬ ok) (f : β × Mem → JavaM T α)
    (n : Native T) :
    Ends n (.error (unexpected .nullPointerException)) n.boxes
      ((tryNative (confined x >>= f)).exec n) := by
  have hm := hy .empty
  rcases hx : x.exec .empty with ⟨t | b, mem⟩ <;> rw [hx] at hm
  · obtain rfl := ht _ _ _ hx
    have hexec : (confined x : JavaM T (β × Mem)).exec n =
        (.error (.thrown .nullPointerException), n) := by
      rw [confined, Prog.exec_reads, hx]
    exact (ends_stopped (Prog.exec_bind_error hexec)).tryNative rfl
  · exact absurd hm.1 hok

/-- A method whose arguments arrive ends as what it does with them. -/
theorem ends_arrived {x : ArenaM β} {b : β} {mem : Mem} {f : β × Mem → JavaM T α}
    {r' : Except Stop α} (hx : x.exec .empty = (.ok b, mem))
    (h : Ends n r boxes ((f (b, mem)).exec n))
    (hr : r.mapError (Stop.orAssertionError "unexpected FFI invocation error") = r') :
    Ends n r' boxes ((tryNative (confined x >>= f)).exec n) := by
  refine Ends.tryNative ?_ hr
  rw [exec_confined_ok hx]
  exact h

/-- What a check behind the arguments throws is wrapped up. -/
theorem ends_refused {x : ArenaM β} {b : β} {mem : Mem} {f : β × Mem → JavaM T α}
    {t : Throwable} (hx : x.exec .empty = (.ok b, mem))
    (hf : (f (b, mem)).exec n = (.error (.thrown t), n))
    (ht : Stop.orAssertionError "unexpected FFI invocation error" (.thrown t) = unexpected t) :
    Ends n (.error (unexpected t)) n.boxes ((tryNative (confined x >>= f)).exec n) :=
  ends_arrived hx (ends_stopped hf) (congrArg Except.error ht)

/-- A pointer that is not null passes its check. -/
theorem exec_openPointer_open {pointer : Addr} (h : pointer ≠ 0) (message : String)
    (f : Addr → JavaM T α) (n : Native T) :
    (openPointer pointer message >>= f).exec n = (f pointer).exec n := by
  rw [openPointer, if_neg h]
  rfl

/-- A native call that makes an object, and the wrapper around it. -/
theorem ends_call_make {mem : Mem} (c : Downcall) {wrap : β → Obj T} {o : Outcome β}
    {n₀ : Native T} (f : Addr → α)
    (hb : (c.body E mem).exec (n.log (.call c)) = (makeObj wrap o).exec n₀)
    (hnext : n₀.next = n.next) (hstreams : n₀.streams = n.streams) :
    Ends n ((seen o).map fun _ => f n.next) (boxed wrap n₀.boxes o) ((do
      let v ← call E mem c
      pure (f v) : JavaM T α).exec n) := by
  cases o with
  | error e =>
      obtain ⟨n₂, hcall, hboxes, hs, -⟩ := call_seen _ _ (hb.trans (exec_makeObj_error wrap e n₀))
      rw [Prog.exec_bind_error hcall]
      exact ⟨rfl, hboxes, hs.trans hstreams⟩
  | ok b =>
      obtain ⟨n₂, hcall, hboxes, hs, -⟩ := call_seen _ _ (hb.trans (exec_makeObj_ok wrap b n₀))
      rw [Prog.exec_bind_ok hcall, Prog.exec_pure, hnext]
      exact ⟨rfl, hboxes, hs.trans hstreams⟩

/-- A native call that makes nothing. -/
theorem ends_call {mem : Mem} (c : Downcall) {o : Outcome Addr} {n₀ : Native T} (f : Addr → α)
    (hb : (c.body E mem).exec (n.log (.call c)) = (o, n₀)) (hstreams : n₀.streams = n.streams) :
    Ends n ((seen o).map f) n₀.boxes ((do
      let v ← call E mem c
      pure (f v) : JavaM T α).exec n) := by
  obtain ⟨n₂, hcall, hboxes, hs, -⟩ := call_seen _ _ hb
  cases o with
  | error e =>
      rw [Prog.exec_bind_error hcall]
      exact ⟨rfl, hboxes, hs.trans hstreams⟩
  | ok v =>
      rw [Prog.exec_bind_ok hcall]
      exact ⟨rfl, hboxes, hs.trans hstreams⟩

end Ends

/-! ## the methods -/

section Methods

variable (E : Engine T) (n : Native T)

/-- How `DataFusionRuntime.create` ends. -/
theorem ends_createRuntime :
    Ends n ((seen E.runtimeNew).map fun _ => (⟨n.next⟩ : DataFusionRuntimeImpl))
      (boxed (fun _ => .runtime) n.boxes (seen E.runtimeNew))
      ((DataFusionRuntimeImpl.create E).exec n) := by
  rw [boxed_seen]
  have hb : (Downcall.runtimeNew.body E .empty).exec (n.log (.call .runtimeNew)) =
      (makeObj (fun _ => .runtime) E.runtimeNew).exec (n.log (.call .runtimeNew)) := rfl
  exact (ends_call_make .runtimeNew DataFusionRuntimeImpl.mk hb rfl rfl).tryNative
    (seen_map_mapError _ _ _)

theorem ends_newSession {w : DataFusionRuntimeImpl} {open_ : Bool}
    (hw : Stands n.boxes w.pointer (if open_ then some .runtime else none)) :
    Ends n ((newSessionOutcome E open_).map fun _ => DataFusionSessionImpl.mk n.next w.pointer)
      (boxed .session n.boxes (newSessionOutcome E open_)) ((w.newSession E).exec n) := by
  cases open_ with
  | false =>
      obtain ⟨p⟩ := w
      obtain rfl : p = 0 := hw.2 rfl
      exact ends_stopped rfl
  | true =>
      rw [DataFusionRuntimeImpl.newSession, DataFusionRuntimeImpl.nativePointer,
        exec_openPointer_open hw.ne_null, newSessionOutcome, if_pos rfl, boxed_seen]
      exact (ends_call_make (.sessionNew w.pointer) (fun v => DataFusionSessionImpl.mk v w.pointer)
        (exec_sessionNew (n := n.log _) hw.get?) rfl rfl).tryNative (seen_map_mapError _ _ _)

/-- How a method that makes a call in a session ends, given what it asks the
engine: the session's context is replaced whether or not the engine
succeeds. -/
def EndsIn {γ : Type} (n : Native T) (session : Addr) (asked : Except Stop (Outcome γ × T.Ctx))
    (made : γ → α) (finish : Store (Obj T) → Outcome γ → Store (Obj T))
    (out : Except Stop α × Native T) : Prop :=
  match asked with
  | .error e => Ends n (.error e) n.boxes out
  | .ok (o, context) =>
      Ends n ((seen o).map made) (finish (n.boxes.put session (.session context)) o) out

theorem ends_sql {w : DataFusionSessionImpl} {context : Option T.Ctx} (query : JArg)
    (hw : Stands n.boxes w.pointer (context.map .session))
    (hrt : context ≠ none → n.boxes.get? w.runtimePointer = some .runtime) :
    EndsIn n w.pointer (sqlOutcome E context query)
      (fun _ => DataFusionDataFrameImpl.new n.next w.runtimePointer) (boxed .dataframe)
      ((w.sql E query).exec n) := by
  cases query with
  | none =>
      exact ends_null (allocateFrom_yields none) (onlyThrows_allocateFrom none)
        (by rintro ⟨s, hs⟩; cases hs) _ n
  | some text =>
      obtain ⟨sql, mem, hrun, harrives⟩ := sql_arrives (T := T) text
      cases context with
      | none =>
          obtain ⟨p, rp⟩ := w
          obtain rfl : p = 0 := hw.2 rfl
          exact ends_refused (t := .illegalStateException "session is closed") hrun rfl rfl
      | some context =>
          have hrt := hrt (by simp)
          -- the context is replaced before the frame is made
          have hb : (sessionSql E mem w.runtimePointer w.pointer sql).exec
              (n.log (.call (.sessionSql w.runtimePointer w.pointer sql))) =
              (makeFrame (E.sql context (JString.arrived text)).1).exec
                { n.log (.call (.sessionSql w.runtimePointer w.pointer sql)) with
                  boxes := n.boxes.put w.pointer
                    (.session (E.sql context (JString.arrived text)).2) } := by
            rw [harrives E (n.log _) _ _ context hrt hw.get?, Prog.exec_bind,
              exec_inSession (n := n.log _) hw.get?]
            cases (E.sql context (JString.arrived text)).1 <;> rfl
          refine ends_arrived hrun ?_ (seen_map_mapError _ _ _)
          dsimp only
          rw [DataFusionSessionImpl.nativePointer, exec_openPointer_open hw.ne_null]
          exact ends_call_make (.sessionSql w.runtimePointer w.pointer sql)
            (fun v => DataFusionDataFrameImpl.new v w.runtimePointer) hb (by simp [Native.next]) rfl

/-- The two registration methods. -/
theorem ends_register {w : DataFusionSessionImpl} {context : Option T.Ctx}
    {function : Addr → Addr → Addr → Addr → Downcall}
    {register : T.Ctx → Text → Text → Outcome Unit × T.Ctx}
    (hfun : ∀ rt s a b mem, (function rt s a b).body E mem = registerTable E mem register rt s a b)
    (tableName path : JArg) (hw : Stands n.boxes w.pointer (context.map .session))
    (hrt : context ≠ none → n.boxes.get? w.runtimePointer = some .runtime) :
    EndsIn n w.pointer (registerOutcome register context tableName path) (fun _ => ())
      (fun boxes _ => boxes) ((w.register E function tableName path).exec n) := by
  have hnull : ¬ (JArg.Given tableName ∧ JArg.Given path) →
      Ends n (.error (unexpected .nullPointerException)) n.boxes
        ((w.register E function tableName path).exec n) := fun hn =>
    ends_null (allocateNameAndPath_yields tableName path)
      (onlyThrows_allocateNameAndPath tableName path) hn _ n
  cases tableName with
  | none => exact hnull fun ⟨⟨s, hs⟩, _⟩ => by cases hs
  | some name =>
      cases path with
      | none => exact hnull fun ⟨_, s, hs⟩ => by cases hs
      | some path =>
          obtain ⟨⟨a, b⟩, mem, hrun, harrives⟩ := register_arrives (T := T) name path
          dsimp only at harrives
          cases context with
          | none =>
              obtain ⟨p, rp⟩ := w
              obtain rfl : p = 0 := hw.2 rfl
              exact ends_refused (t := .illegalStateException "session is closed") hrun rfl rfl
          | some context =>
              have hrt := hrt (by simp)
              have hexec : ((function w.runtimePointer w.pointer a b).body E mem).exec
                  (n.log (.call (function w.runtimePointer w.pointer a b))) =
                  ((register context (JString.arrived name) (JString.arrived path)).1.map
                    fun _ => 0, { n.log (.call (function w.runtimePointer w.pointer a b)) with
                      boxes := n.boxes.put w.pointer (.session
                        (register context (JString.arrived name) (JString.arrived path)).2) }) := by
                rw [hfun, harrives register E (n.log _) _ _ context hrt hw.get?, Prog.exec_bind,
                  exec_inSession (n := n.log _) hw.get?]
                cases (register context (JString.arrived name) (JString.arrived path)).1 <;> rfl
              refine ends_arrived (r := (seen (register context (JString.arrived name)
                (JString.arrived path)).1).map fun _ => ()) hrun ?_ (seen_map_mapError _ _ _)
              dsimp only
              rw [DataFusionSessionImpl.nativePointer, exec_openPointer_open hw.ne_null]
              have hend := ends_call (α := Unit) _ (fun _ => ()) hexec rfl
              cases ho : (register context (JString.arrived name) (JString.arrived path)).1 <;>
                rw [ho] at hend <;> exact hend

/-- How a frame method ends. -/
theorem ends_transform {w : DataFusionDataFrameImpl} {plan : Option T.Plan}
    (op : UnaryOp JArg JArgs) (hw : Stands n.boxes w.pointer (plan.map .dataframe))
    (hrt : plan ≠ none → n.boxes.get? w.runtimePointer = some .runtime) :
    Ends n ((transformOutcome E plan op).map fun _ =>
        DataFusionDataFrameImpl.new n.next w.runtimePointer)
      (boxed .dataframe n.boxes (transformOutcome E plan op)) ((w.transform E op).exec n) := by
  cases hs : op.strings? with
  | none =>
      have hout : transformOutcome E plan op = .error (unexpected .nullPointerException) := by
        rw [transformOutcome, hs]
        rfl
      rw [hout]
      refine ends_null op.marshal_yields op.onlyThrows_marshal (fun hgiven => ?_) _ n
      obtain ⟨op', hop'⟩ := UnaryOp.strings?_of_given hgiven
      rw [hs] at hop'
      cases hop'
  | some op' =>
      obtain rfl := UnaryOp.eq_java hs
      obtain ⟨op'', mem, hrun, harrives⟩ := unary_arrives (T := T) op'
      cases plan with
      | none =>
          have hout : transformOutcome E none op'.java =
              .error (unexpected (.illegalStateException "DataFrame is closed")) := by
            rw [transformOutcome, hs]
            rfl
          rw [hout]
          obtain ⟨p, rp, c⟩ := w
          obtain rfl : p = 0 := hw.2 rfl
          exact ends_refused (t := .illegalStateException "DataFrame is closed") hrun rfl rfl
      | some df =>
          have hrt := hrt (by simp)
          have hout : transformOutcome E (some df) op'.java =
              seen (op'.delivered.apply E pure pure df) := by
            rw [transformOutcome, hs]
            rfl
          rw [hout, boxed_seen]
          refine ends_arrived hrun ?_ (seen_map_mapError _ _ _)
          dsimp only
          rw [DataFusionDataFrameImpl.nativePointer, exec_openPointer_open hw.ne_null]
          have hb := harrives E (n.log (.call (.unary op'' w.runtimePointer w.pointer))) _ _ df hrt
            hw.get?
          have hend := ends_call_make (.unary op'' w.runtimePointer w.pointer)
            (fun v => DataFusionDataFrameImpl.new v w.runtimePointer) hb rfl rfl
          exact hend

/-- How `count` ends. -/
theorem ends_count {w : DataFusionDataFrameImpl} {plan : Option T.Plan}
    (hw : Stands n.boxes w.pointer (plan.map .dataframe))
    (hrt : plan ≠ none → n.boxes.get? w.runtimePointer = some .runtime) :
    Ends n (countOutcome E plan) n.boxes ((w.count E).exec n) := by
  cases plan with
  | none =>
      obtain ⟨p, rp, c⟩ := w
      obtain rfl : p = 0 := hw.2 rfl
      exact Ends.tryNative (r := .error (.thrown (.illegalStateException "DataFrame is closed")))
        (ends_stopped rfl) rfl
  | some df =>
      have hout : countOutcome E (some df) = (seen (E.count df)).map address := by
        show (seen (E.count df) >>= fun rows => pure (address rows)) = _
        cases seen (E.count df) <;> rfl
      rw [hout]
      refine Ends.tryNative ?_ (seen_map_mapError _ _ _)
      rw [DataFusionDataFrameImpl.nativePointer, exec_openPointer_open hw.ne_null]
      have hb : ((Downcall.dataframeCount w.runtimePointer w.pointer).body E .empty).exec
          (n.log (.call (.dataframeCount w.runtimePointer w.pointer))) =
          (E.count df, n.log (.call (.dataframeCount w.runtimePointer w.pointer))) :=
        exec_dataframeCount (n := n.log _) (hrt (by simp)) hw.get?
      have hend := ends_call (.dataframeCount w.runtimePointer w.pointer) address hb rfl
      exact hend

/-- A frame that may be null, and what it stands for. -/
def OperandStands (boxes : Store (Obj T)) (other : Option DataFusionDataFrameImpl)
    (plan : Option (Option T.Plan)) : Prop :=
  Option.Rel (fun w plan => Stands boxes w.pointer (plan.map .dataframe)) other plan

/-- Looking at an operand. -/
theorem exec_operandPointer {other : Option DataFusionDataFrameImpl}
    {right : Option (Option T.Plan)} (h : OperandStands n.boxes other right)
    (f : Addr → JavaM T α) :
    (DataFusionDataFrameImpl.operandPointer other >>= f).exec n = match right with
      | none => (.error (.thrown .nullPointerException), n)
      | some none => (.error (.thrown (.illegalStateException "DataFrame is closed")), n)
      | some (some _) => (f (otherPointer other)).exec n := by
  cases h with
  | none => rfl
  | @some o right h =>
      rw [DataFusionDataFrameImpl.operandPointer, DataFusionDataFrameImpl.nativePointer]
      cases right with
      | none => rw [h.2 rfl]; rfl
      | some df => exact exec_openPointer_open h.ne_null _ _ _

/-- A join type that is null stays null. -/
theorem nativeValue_of_joined_none {mem : Mem} {op : BinaryOp (Option JoinType) (List JString)}
    {op' : BinaryOp (Option JoinType) StrArray} (h : op.joined? = none)
    (hrel : op'.Rel (ArgsAt mem) (op.map id fun ss => some (ss.map some))) :
    (op'.nativeValue : JavaM T (BinaryOp Int StrArray)) = throwing .nullPointerException := by
  cases op <;> simp only [BinaryOp.joined?, Option.bind_eq_bind, Option.pure_def,
    Option.bind_eq_none_iff, reduceCtorEq, imp_false] at h
  case join jt l r =>
    obtain rfl : jt = none := Option.eq_none_iff_forall_ne_some.mpr h
    cases op' <;> try contradiction
    obtain ⟨rfl, -⟩ := hrel
    rfl

/-- The call of a method on two frames, once its columns have arrived. -/
private def combineCall (w : DataFusionDataFrameImpl) (other : Option DataFusionDataFrameImpl)
    (mem : Mem) (op : BinaryOp (Option JoinType) StrArray) : JavaM T DataFusionDataFrameImpl := do
  let pointer ← w.nativePointer
  let otherPointer ← DataFusionDataFrameImpl.operandPointer other
  let op ← op.nativeValue
  let dfPtr ← call E mem (.binary op w.runtimePointer pointer otherPointer)
  pure (.new dfPtr w.runtimePointer)

/-- A call with strings has all its arguments. -/
theorem BinaryOp.given_of_strings {Join : Type} (op : BinaryOp Join (List JString)) :
    (op.map id fun ss => some (ss.map some) : BinaryOp Join JArgs).Given := by
  cases op with
  | join jt l r => exact ⟨⟨l, rfl⟩, r, rfl⟩
  | union | unionDistinct | except | intersect => trivial

section Combine

variable {w : DataFusionDataFrameImpl} {other : Option DataFusionDataFrameImpl}
  {plan : Option T.Plan} {right : Option (Option T.Plan)}

/-- A method on two frames that throws what one of its checks throws. -/
theorem ends_combine_refused {op : BinaryOp (Option JoinType) (List JString)}
    {op' : BinaryOp (Option JoinType) StrArray} {mem : Mem} {t : Throwable}
    (hrun : (op.map id fun ss => some (ss.map some)).marshal.exec .empty = (.ok op', mem))
    (hcall : (combineCall E w other mem op').exec n = (.error (.thrown t), n))
    (hout : combineOutcome E plan right (op.map id fun ss => some (ss.map some)) =
      .error (unexpected t))
    (ht : Stop.orAssertionError "unexpected FFI invocation error" (.thrown t) = unexpected t) :
    Ends n ((combineOutcome E plan right (op.map id fun ss => some (ss.map some))).map fun _ =>
        DataFusionDataFrameImpl.new n.next w.runtimePointer)
      (boxed .dataframe n.boxes
        (combineOutcome E plan right (op.map id fun ss => some (ss.map some))))
      ((w.combine E other (op.map id fun ss => some (ss.map some))).exec n) := by
  rw [hout]
  exact ends_refused hrun hcall ht

/-- A method on two frames that are both open, given a join type. -/
theorem ends_combine_open {df rightDf : T.Plan} (op : BinaryOp JoinType (List JString))
    (hw : Stands n.boxes w.pointer (some (.dataframe df)))
    (hother : OperandStands n.boxes other (some (some rightDf)))
    (hrt : n.boxes.get? w.runtimePointer = some .runtime) :
    Ends n ((seen (op.delivered.apply E pure pure df rightDf)).map fun _ =>
        DataFusionDataFrameImpl.new n.next w.runtimePointer)
      (boxed .dataframe n.boxes (op.delivered.apply E pure pure df rightDf))
      ((w.combine E other op.java).exec n) := by
  obtain ⟨op', mem, hrun, op'', hvalue, harrives⟩ := binary_arrives (T := T) op
  have hright : n.boxes.get? (otherPointer other) = some (.dataframe rightDf) := by
    cases hother with | some h => exact h.get?
  have hb := harrives E (n.log (.call (.binary op'' w.runtimePointer w.pointer
    (otherPointer other)))) _ _ _ df rightDf hrt hw.get? hright
  refine ends_arrived hrun ?_ (seen_map_mapError _ _ _)
  dsimp only
  rw [DataFusionDataFrameImpl.nativePointer, exec_openPointer_open hw.ne_null,
    exec_operandPointer n hother]
  dsimp only
  rw [hvalue]
  have hend := ends_call_make (.binary op'' w.runtimePointer w.pointer (otherPointer other))
    (fun v => DataFusionDataFrameImpl.new v w.runtimePointer) hb rfl rfl
  exact hend

/-- How a method on two frames ends. -/
theorem ends_combine (op : BinaryOp (Option JoinType) JArgs)
    (hw : Stands n.boxes w.pointer (plan.map .dataframe))
    (hother : OperandStands n.boxes other right)
    (hrt : plan ≠ none → n.boxes.get? w.runtimePointer = some .runtime) :
    Ends n ((combineOutcome E plan right op).map fun _ =>
        DataFusionDataFrameImpl.new n.next w.runtimePointer)
      (boxed .dataframe n.boxes (combineOutcome E plan right op))
      ((w.combine E other op).exec n) := by
  cases hs : op.strings? with
  | none =>
      have hout : combineOutcome E plan right op = .error (unexpected .nullPointerException) := by
        rw [combineOutcome, hs]
        rfl
      rw [hout]
      refine ends_null op.marshal_yields op.onlyThrows_marshal (fun hgiven => ?_) _ n
      obtain ⟨op', hop'⟩ := BinaryOp.strings?_of_given hgiven
      rw [hs] at hop'
      cases hop'
  | some op' =>
      obtain rfl := BinaryOp.eq_strings hs
      obtain ⟨op'', mem, hrun, hrel⟩ := (BinaryOp.marshal_yields
        (op'.map id fun ss => some (ss.map some))).run op'.given_of_strings .empty
      -- the receiver, the operand and the join type are looked at in this order
      cases plan with
      | none =>
          refine ends_combine_refused E n (t := .illegalStateException "DataFrame is closed") hrun
            ?_ (by rw [combineOutcome, hs]; rfl) rfl
          rw [combineCall, DataFusionDataFrameImpl.nativePointer, hw.2 rfl]
          rfl
      | some df =>
          have hown := exec_openPointer_open (T := T) (α := DataFusionDataFrameImpl) hw.ne_null
            "DataFrame is closed"
          have hoperand := exec_operandPointer (α := DataFusionDataFrameImpl) n hother
          rcases right with - | - | rightDf
          · refine ends_combine_refused E n (t := .nullPointerException) hrun ?_
              (by rw [combineOutcome, hs]; rfl) rfl
            rw [combineCall, DataFusionDataFrameImpl.nativePointer, hown, hoperand]
          · refine ends_combine_refused E n (t := .illegalStateException "DataFrame is closed") hrun
              ?_ (by rw [combineOutcome, hs]; rfl) rfl
            rw [combineCall, DataFusionDataFrameImpl.nativePointer, hown, hoperand]
          · have hopen : combineOutcome E (some df) (some (some rightDf))
                (op'.map id fun ss => some (ss.map some)) = given op'.joined? >>= fun op =>
                  seen (op.delivered.apply E pure pure df rightDf) := by
              rw [combineOutcome, hs]
              rfl
            cases hj : op'.joined? with
            | none =>
                refine ends_combine_refused E n (t := .nullPointerException) hrun ?_
                  (by rw [hopen, hj]; rfl) rfl
                rw [combineCall, DataFusionDataFrameImpl.nativePointer, hown, hoperand]
                dsimp only
                rw [nativeValue_of_joined_none hj hrel]
                rfl
            | some op₂ =>
                obtain rfl := BinaryOp.eq_joined hj
                have hjava :
                    (op₂.map some id).map id (fun ss => some (ss.map some)) = op₂.java := by
                  cases op₂ <;> rfl
                have hseen : combineOutcome E (some df) (some (some rightDf)) op₂.java =
                    seen (op₂.delivered.apply E pure pure df rightDf) := by
                  rw [← hjava, hopen, hj]
                  rfl
                rw [hjava, hseen, boxed_seen]
                exact ends_combine_open E n op₂ hw hother (hrt (by simp))

end Combine

end Methods

end DataFusionPanama
