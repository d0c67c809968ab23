import DataFusionPanama.Java.Effect

/-!
# DataFusionPanama.Process

A single-threaded Java program, as far as the binding can tell: the native
side, the wrappers the program has, and one API call after another on any
of them.  Each step brings its own engine, so every native operation may
end in any way at any time, whatever it did before.  The `Cleaner` acts
between two calls, on frames the program has forgotten; what it may do while
a call is in progress is the matter of `Reachability`.

`perform_transition` says once what a call can do.  A call that is not ready
(an argument is null, or a wrapper it looks at is closed) throws and does
nothing; a call that is ready enters one native function with the pointers
`Request` names, and may create one object; closing an open wrapper frees
its object; nothing else happens.  Every invariant of a run is read off
these five cases.
-/

namespace DataFusionPanama

open Native (Same)

variable {T : Types} {α : Type}

/-! ## the program -/

/-- A frame of the program, and whether the program still refers to it. -/
structure Frame where
  wrapper : DataFusionDataFrameImpl
  dropped : Bool
  deriving DecidableEq, Repr

structure Process (T : Types) where
  native : Native T
  runtimes : List DataFusionRuntimeImpl
  sessions : List DataFusionSessionImpl
  frames : List Frame
  readers : List (Arrow × RecordBatchReaderImpl T)
  /-- A native call has taken the process down. -/
  halted : Bool

/-- A call of the API.  Objects are given by the order of their creation. -/
inductive ApiCall where
  | createRuntime
  | newSession (runtime : Nat)
  | closeRuntime (runtime : Nat)
  | sql (session : Nat) (query : JArg)
  | registerCsv (session : Nat) (tableName path : JArg)
  | registerParquet (session : Nat) (tableName path : JArg)
  | closeSession (session : Nat)
  | transform (frame : Nat) (op : UnaryOp JArg JArgs)
  /-- The other operand may be null. -/
  | combine (frame : Nat) (other : Option Nat) (op : BinaryOp (Option JoinType) JArgs)
  | count (frame : Nat)
  | collect (frame : Nat) (env : ArrowEnv)
  | closeFrame (frame : Nat)
  /-- The program forgets its last reference to a frame. -/
  | drop (frame : Nat)
  /-- The `Cleaner` gets to a forgotten frame. -/
  | clean (frame : Nat)
  | reader (reader : Nat) (call : ReaderCall)

/-- How a call ended, if the program could make it. -/
abbrev Reply := Option (Except Stop Unit)

namespace Process

def start : Process T := ⟨.empty, [], [], [], [], false⟩

variable (p : Process T)

/-- A frame the program still refers to. -/
def frame? (d : Nat) : Option DataFusionDataFrameImpl :=
  match p.frames[d]? with
  | some ⟨w, false⟩ => some w
  | _ => none

/-- A frame the program has forgotten. -/
def dropped? (d : Nat) : Option DataFusionDataFrameImpl :=
  match p.frames[d]? with
  | some ⟨w, true⟩ => some w
  | _ => none

/-- An operand, which may be null. -/
def operand? : Option Nat → Option (Option DataFusionDataFrameImpl)
  | none => some none
  | some d => (p.frame? d).map some

def addRuntime (w : DataFusionRuntimeImpl) : Process T := { p with runtimes := p.runtimes ++ [w] }

def addSession (w : DataFusionSessionImpl) : Process T := { p with sessions := p.sessions ++ [w] }

def addFrame (w : DataFusionDataFrameImpl) : Process T :=
  { p with frames := p.frames ++ [⟨w, false⟩] }

def addReader (r : Arrow × RecordBatchReaderImpl T) : Process T :=
  { p with readers := p.readers ++ [r] }

/-- Run a method and keep what it returns. -/
def invoke (x : JavaM T α) (store : Process T → α → Process T) : Reply × Process T :=
  match x.exec p.native with
  | (.ok a, n) => (some (.ok ()), store { p with native := n } a)
  | (.error e, n) => (some (.error e), { p with native := n, halted := decide (e = .aborted) })

/-- Run a method of an object, if the program has it. -/
def on {ω : Type} (object : Option ω) (method : ω → Reply × Process T) : Reply × Process T :=
  match object with
  | some w => method w
  | none => (none, p)

/-- A call on a reader. -/
def read (i : Nat) (call : ReaderCall) (r : Arrow × RecordBatchReaderImpl T) : Process T :=
  let s := call.run ⟨⟨p.native, r.1⟩, r.2⟩
  { p with native := s.native, readers := p.readers.set i (s.collect.arrow, s.reader) }

/-- One call of the API. -/
def perform (E : Engine T) : ApiCall → Reply × Process T
  | .createRuntime => p.invoke (DataFusionRuntimeImpl.create E) addRuntime
  | .newSession r => p.on p.runtimes[r]? fun w => p.invoke (w.newSession E) addSession
  | .closeRuntime r => p.on p.runtimes[r]? fun w =>
      p.invoke w.close fun p w => { p with runtimes := p.runtimes.set r w }
  | .sql s query => p.on p.sessions[s]? fun w => p.invoke (w.sql E query) addFrame
  | .registerCsv s tableName path => p.on p.sessions[s]? fun w =>
      p.invoke (w.registerCsv E tableName path) fun p _ => p
  | .registerParquet s tableName path => p.on p.sessions[s]? fun w =>
      p.invoke (w.registerParquet E tableName path) fun p _ => p
  | .closeSession s => p.on p.sessions[s]? fun w =>
      p.invoke w.close fun p w => { p with sessions := p.sessions.set s w }
  | .transform d op => p.on (p.frame? d) fun w => p.invoke (w.transform E op) addFrame
  | .combine d other op => p.on (p.frame? d) fun w => p.on (p.operand? other) fun o =>
      p.invoke (w.combine E o op) addFrame
  | .count d => p.on (p.frame? d) fun w => p.invoke (w.count E) fun p _ => p
  | .collect d env => p.on (p.frame? d) fun w => p.invoke (w.collect E env) addReader
  | .closeFrame d => p.on (p.frame? d) fun w =>
      p.invoke w.close fun p w => { p with frames := p.frames.set d ⟨w, false⟩ }
  | .drop d => p.on (p.frame? d) fun w => (none, { p with frames := p.frames.set d ⟨w, true⟩ })
  | .clean d => p.on (p.dropped? d) fun w =>
      p.invoke w.clean fun p w => { p with frames := p.frames.set d ⟨w, true⟩ }
  | .reader i call => p.on p.readers[i]? fun r => (none, p.read i call r)

/-- A step of the program.  There is none after the process is gone. -/
def step (E : Engine T) (call : ApiCall) : Reply × Process T :=
  if p.halted then (none, p) else p.perform E call

end Process

/-! ## open wrappers -/

/-- A kind and a pointer of that kind. -/
abbrev Handle := Kind × Addr

/-- The handle of a wrapper, unless it has been closed. -/
def openHandle (k : Kind) (pointer : Addr) : Option Handle :=
  if pointer = 0 then none else some (k, pointer)

/-- A pointer that is not null is a handle. -/
theorem openHandle_of_ne {k : Kind} {pointer : Addr} (h : pointer ≠ 0) :
    openHandle k pointer = some (k, pointer) := if_neg h

def DataFusionRuntimeImpl.handle (w : DataFusionRuntimeImpl) : Option Handle :=
  openHandle .runtime w.pointer

def DataFusionSessionImpl.handle (w : DataFusionSessionImpl) : Option Handle :=
  openHandle .session w.pointer

def Frame.handle (f : Frame) : Option Handle := openHandle .dataframe f.wrapper.pointer

/-- The handles of all wrappers that have not been closed or cleaned. -/
def Process.handles (p : Process T) : List Handle :=
  p.runtimes.filterMap DataFusionRuntimeImpl.handle ++
    (p.sessions.filterMap DataFusionSessionImpl.handle ++ p.frames.filterMap Frame.handle)

/-- A frame wrapper is cleaned exactly when its pointer is cleared. -/
def Process.Tidy (p : Process T) : Prop :=
  ∀ f ∈ p.frames, f.wrapper.cleaned = true ↔ f.wrapper.pointer = 0

/-! ## what a call is about -/

/-- What a call asks for: its arguments and what else it needs to get to its
native call, the handles it takes from wrappers it checks, and those it
takes from copied runtime pointers. -/
structure Request where
  given : Prop
  own : List Handle
  copied : List Handle
  creates : Option Kind

/-- The checks on the Java side. -/
def Request.Passes (q : Request) : Prop := q.given ∧ ∀ h ∈ q.own, h.2 ≠ 0

/-- The handles a call passes on. -/
def Request.handles (q : Request) : List Handle := q.copied ++ q.own

namespace ApiCall

/-- A request of a session's method. -/
def sessionRequest (w : DataFusionSessionImpl) (given : Prop) (creates : Option Kind) : Request :=
  ⟨given, [(.session, w.pointer)], [(.runtime, w.runtimePointer)], creates⟩

/-- A request of a frame's method. -/
def frameRequest (w : DataFusionDataFrameImpl) (given : Prop) (creates : Option Kind) : Request :=
  ⟨given, [(.dataframe, w.pointer)], [(.runtime, w.runtimePointer)], creates⟩

variable (p : Process T)

def request : ApiCall → Option Request
  | .createRuntime => some ⟨True, [], [], some .runtime⟩
  | .newSession r => p.runtimes[r]?.map fun w =>
      ⟨True, [(.runtime, w.pointer)], [], some .session⟩
  | .sql s query => p.sessions[s]?.map fun w => sessionRequest w query.Given (some .dataframe)
  | .registerCsv s tableName path | .registerParquet s tableName path =>
      p.sessions[s]?.map fun w => sessionRequest w (tableName.Given ∧ path.Given) none
  | .transform d op => (p.frame? d).map fun w => frameRequest w op.Given (some .dataframe)
  | .combine d other op => (p.frame? d).bind fun w => (p.operand? other).map fun o =>
      ⟨op.Given ∧ op.JoinGiven, [(.dataframe, w.pointer), (.dataframe, otherPointer o)],
        [(.runtime, w.runtimePointer)], some .dataframe⟩
  | .count d => (p.frame? d).map fun w => frameRequest w True none
  | .collect d env => (p.frame? d).map fun w =>
      frameRequest w (env.allocateNew = none ∧ env.invoke = none) none
  | _ => none

/-- The handle of the wrapper a call closes, if it is open. -/
def closes : ApiCall → Option Handle
  | .closeRuntime r => p.runtimes[r]?.bind fun w => w.handle
  | .closeSession s => p.sessions[s]?.bind fun w => w.handle
  | .closeFrame d => (p.frame? d).bind fun w => openHandle .dataframe w.pointer
  | .clean d => (p.dropped? d).bind fun w => openHandle .dataframe w.pointer
  | _ => none

end ApiCall

/-! ## what a step does -/

/-- Nothing happened to the objects, nor to the open wrappers. -/
structure Unchanged (p p' : Process T) : Prop where
  native : Same p.native p'.native
  handles : p'.handles.Perm p.handles

/-- The five things a call can do. -/
inductive Transition (p : Process T) (call : ApiCall) : Reply × Process T → Prop
  /-- There is nothing to do. -/
  | idle {r : Reply} {p' : Process T} (hq : call.request p = none) (hc : call.closes p = none)
      (h : Unchanged p p') : Transition p call (r, p')
  /-- A check fails. -/
  | rejected {q : Request} {t : Throwable} {p' : Process T} (hq : call.request p = some q)
      (hn : ¬ q.Passes) (h : Unchanged p p') : Transition p call (some (.error (.thrown t)), p')
  /-- A native function is entered and leaves no new object. -/
  | called {q : Request} {c : Downcall} {r : Except Stop Unit} {p' : Process T}
      (hq : call.request p = some q) (hpass : q.Passes) (hh : c.handles = q.handles)
      (hr : q.creates = none ∨ r ≠ .ok ()) (hn : Same (p.native.log (.call c)) p'.native)
      (hp : p'.handles.Perm p.handles) : Transition p call (some r, p')
  /-- A native function is entered and its new object is wrapped up. -/
  | created {q : Request} {c : Downcall} {k : Kind} {o : Obj T} {p' : Process T}
      (hq : call.request p = some q) (hpass : q.Passes) (hh : c.handles = q.handles)
      (hk : q.creates = some k) (ho : o.kind = k)
      (hn : Same ((p.native.log (.call c)).box o) p'.native)
      (hp : p'.handles.Perm ((k, p.native.next) :: p.handles)) :
      Transition p call (some (.ok ()), p')
  /-- An open wrapper is closed. -/
  | closed {h : Handle} {p' : Process T} (hclose : call.closes p = some h)
      (hn : p'.native = p.native.unbox h.1 h.2) (hp : p.handles.Perm (h :: p'.handles)) :
      Transition p call (some (.ok ()), p')

/-- A call that asks for something closes nothing. -/
theorem ApiCall.closes_of_request {p : Process T} {call : ApiCall} {q : Request}
    (h : call.request p = some q) : call.closes p = none := by
  cases call <;> first | rfl | (simp [ApiCall.request] at h)

/-- A call that closes makes no native call. -/
theorem ApiCall.request_of_closes {p : Process T} {call : ApiCall} {h : Handle}
    (hc : call.closes p = some h) : call.request p = none := by
  cases hq : call.request p with
  | none => rfl
  | some q =>
      rw [ApiCall.closes_of_request hq] at hc
      contradiction

/-! ## lists of wrappers -/

section Lists

variable {ω β : Type} {f : ω → Option β} {l : List ω} {i : Nat} {w w' : ω}

/-- The first element first. -/
private theorem filterMap_cons_toList (x : ω) (l : List ω) :
    (x :: l).filterMap f = (f x).toList ++ l.filterMap f := by
  rw [List.filterMap_cons]
  cases f x <;> rfl

/-- Replacing a wrapper by one with the same handle. -/
theorem filterMap_set_of_eq (hl : l[i]? = some w) (hw : f w' = f w) :
    (l.set i w').filterMap f = l.filterMap f := by
  induction l generalizing i with
  | nil => rfl
  | cons x l ih =>
      cases i with
      | zero =>
          obtain rfl : x = w := by simpa using hl
          rw [List.set_cons_zero, filterMap_cons_toList, filterMap_cons_toList, hw]
      | succ i => rw [List.set_cons_succ, filterMap_cons_toList, filterMap_cons_toList, ih hl]

/-- Replacing a wrapper by a closed one. -/
theorem filterMap_set_of_none (hl : l[i]? = some w) (hw' : f w' = none) :
    (l.filterMap f).Perm ((f w).toList ++ (l.set i w').filterMap f) := by
  induction l generalizing i with
  | nil => simp at hl
  | cons x l ih =>
      cases i with
      | zero =>
          obtain rfl : x = w := by simpa using hl
          rw [List.set_cons_zero, filterMap_cons_toList, List.filterMap_cons_none hw']
      | succ i =>
          rw [List.set_cons_succ, filterMap_cons_toList, filterMap_cons_toList]
          exact ((ih hl).append_left _).trans (List.perm_append_comm_assoc ..)

end Lists

namespace Process

/-- A new runtime adds its handle. -/
theorem handles_addRuntime (p : Process T) (a : Addr) (ha : a ≠ 0) :
    (p.addRuntime ⟨a⟩).handles.Perm ((.runtime, a) :: p.handles) := by
  simp only [handles, addRuntime, List.filterMap_append, List.append_assoc]
  rw [show [(⟨a⟩ : DataFusionRuntimeImpl)].filterMap DataFusionRuntimeImpl.handle =
    [(.runtime, a)] by simp [DataFusionRuntimeImpl.handle, openHandle_of_ne ha]]
  exact List.perm_middle

theorem handles_addSession (p : Process T) (a r : Addr) (ha : a ≠ 0) :
    (p.addSession ⟨a, r⟩).handles.Perm ((.session, a) :: p.handles) := by
  simp only [handles, addSession, List.filterMap_append]
  rw [show [(⟨a, r⟩ : DataFusionSessionImpl)].filterMap DataFusionSessionImpl.handle =
    [(.session, a)] by simp [DataFusionSessionImpl.handle, openHandle_of_ne ha], List.append_assoc]
  exact (List.perm_middle.append_left _).trans List.perm_middle

theorem handles_addFrame (p : Process T) (a r : Addr) (ha : a ≠ 0) :
    (p.addFrame (.new a r)).handles.Perm ((.dataframe, a) :: p.handles) := by
  simp only [handles, addFrame, List.filterMap_append]
  rw [show [(⟨.new a r, false⟩ : Frame)].filterMap Frame.handle = [(.dataframe, a)] by
    simp [Frame.handle, DataFusionDataFrameImpl.new, openHandle_of_ne ha]]
  have h := List.perm_append_singleton (Kind.dataframe, a) p.handles
  simpa only [handles, List.append_assoc] using h

/-- Closing a runtime takes its handle away. -/
theorem handles_closeRuntime {p : Process T} {r : Nat} {w : DataFusionRuntimeImpl}
    (h : p.runtimes[r]? = some w) :
    p.handles.Perm (w.handle.toList ++ { p with runtimes := p.runtimes.set r ⟨0⟩ }.handles) := by
  have hperm := filterMap_set_of_none h (show DataFusionRuntimeImpl.handle ⟨0⟩ = none from rfl)
  have hrest := hperm.append_right (p.sessions.filterMap DataFusionSessionImpl.handle ++
    p.frames.filterMap Frame.handle)
  rwa [List.append_assoc] at hrest

theorem handles_closeSession {p : Process T} {s : Nat} {w : DataFusionSessionImpl}
    (h : p.sessions[s]? = some w) :
    p.handles.Perm (w.handle.toList ++
      { p with sessions := p.sessions.set s ⟨0, w.runtimePointer⟩ }.handles) := by
  have hperm := filterMap_set_of_none h
    (show DataFusionSessionImpl.handle ⟨0, w.runtimePointer⟩ = none from rfl)
  have hrest := hperm.append_right (p.frames.filterMap Frame.handle)
  rw [List.append_assoc] at hrest
  exact (hrest.append_left _).trans (List.perm_append_comm_assoc ..)

theorem handles_closeFrame {p : Process T} {d : Nat} {f f' : Frame} (h : p.frames[d]? = some f)
    (hf' : f'.handle = none) :
    p.handles.Perm (f.handle.toList ++ { p with frames := p.frames.set d f' }.handles) := by
  have hrest := (filterMap_set_of_none h hf').append_left
    (p.sessions.filterMap DataFusionSessionImpl.handle)
  exact ((hrest.trans (List.perm_append_comm_assoc ..)).append_left _).trans
    (List.perm_append_comm_assoc ..)

/-- What storing the outcome of a creating method does. -/
def Stores (p : Process T) (creates : Option Kind) (made : Addr → α → Prop)
    (store : Process T → α → Process T) : Prop :=
  ∀ n v a, made v a → (creates ≠ none → v ≠ 0) →
    (store { p with native := n } a).native = n ∧
    (p.Tidy → (store { p with native := n } a).Tidy) ∧
    match creates with
    | some k => (store { p with native := n } a).handles.Perm ((k, v) :: p.handles)
    | none => (store { p with native := n } a).handles = p.handles

variable {p : Process T}

/-- A runtime is stored with the pointer it was made of. -/
theorem stores_addRuntime :
    p.Stores (some .runtime) (fun v w => w = ⟨v⟩) addRuntime := by
  rintro n v _ rfl hv
  exact ⟨rfl, id, handles_addRuntime _ v (hv (by simp))⟩

theorem stores_addSession (r : Addr) :
    p.Stores (some .session) (fun v w => w = ⟨v, r⟩) addSession := by
  rintro n v _ rfl hv
  exact ⟨rfl, id, handles_addSession _ v r (hv (by simp))⟩

theorem stores_addFrame (r : Addr) :
    p.Stores (some .dataframe) (fun v w => w = .new v r) addFrame := by
  rintro n v _ rfl hv
  refine ⟨rfl, fun ht f hf => ?_, handles_addFrame _ v r (hv (by simp))⟩
  rcases List.mem_append.mp hf with hf | hf
  · exact ht f hf
  · obtain rfl := List.mem_singleton.mp hf
    simp [DataFusionDataFrameImpl.new, hv]

/-- Nothing is stored. -/
theorem stores_nothing (made : Addr → α → Prop) : p.Stores none made fun p _ => p :=
  fun _ _ _ _ _ => ⟨rfl, id, rfl⟩

/-- A reader has no handle. -/
theorem stores_addReader (made : Addr → Arrow × RecordBatchReaderImpl T → Prop) :
    p.Stores none made addReader :=
  fun _ _ _ _ _ => ⟨rfl, id, rfl⟩

/-- **A method that makes at most one native call** rejects, calls or
creates. -/
theorem invoke_transition {call : ApiCall} (q : Request) {x : JavaM T α}
    {store : Process T → α → Process T} {made : Addr → α → Prop} (ht : p.Tidy)
    (hq : call.request p = some q)
    (hx : Reaches q.Passes q.handles q.creates made p.native (x.exec p.native))
    (hs : p.Stores q.creates made store) :
    Transition p call (p.invoke x store) ∧ (p.invoke x store).2.Tidy := by
  rw [invoke]
  by_cases hpass : q.Passes
  · obtain ⟨c, hh, hc, hcalled⟩ := hx.called hpass
    rcases hr : x.exec p.native with ⟨e | a, n⟩ <;> rw [hr] at hcalled
    · exact ⟨.called hq hpass hh (.inr (by simp)) hcalled (.refl _), ht⟩
    · obtain ⟨v, hv, hleft⟩ := hcalled
      cases hk : q.creates with
      | none =>
          rw [hc, hk] at hleft
          obtain ⟨hnative, htidy, hhandles⟩ := hs n v a hv (fun h => absurd hk h)
          rw [hk] at hhandles
          exact ⟨.called hq hpass hh (.inl hk) (by rw [hnative]; exact hleft)
            (hhandles ▸ .refl _), htidy ht⟩
      | some k =>
          rw [hc, hk] at hleft
          obtain ⟨hnext, o, ho, hbox⟩ := hleft
          obtain ⟨hnative, htidy, hhandles⟩ := hs n v a hv
            (fun _ => hnext ▸ Native.next_ne_null p.native)
          rw [hk, hnext] at hhandles
          exact ⟨.created hq hpass hh hk ho (by rw [hnative]; exact hbox) hhandles, htidy ht⟩
  · obtain ⟨t, n, hr, hsame⟩ := hx.rejected hpass
    rw [hr]
    exact ⟨.rejected hq hpass ⟨hsame, .refl _⟩, ht⟩

/-- A call on an object. -/
theorem on_transition {ω : Type} {call : ApiCall} {object : Option ω}
    {method : ω → Reply × Process T} (ht : p.Tidy)
    (hnone : object = none → call.request p = none ∧ call.closes p = none)
    (hsome : ∀ w, object = some w → Transition p call (method w) ∧ (method w).2.Tidy) :
    Transition p call (p.on object method) ∧ (p.on object method).2.Tidy := by
  cases hw : object with
  | none => exact ⟨.idle (hnone hw).1 (hnone hw).2 ⟨.refl _, .refl _⟩, ht⟩
  | some w => exact hsome w hw

/-- A method of an object that makes at most one native call. -/
theorem method_transition {ω : Type} {call : ApiCall} {object : Option ω} (q : ω → Request)
    {x : ω → JavaM T α} {store : Process T → α → Process T} {made : ω → Addr → α → Prop}
    (ht : p.Tidy) (hq : call.request p = object.map q) (hc : call.closes p = none)
    (hx : ∀ w, Reaches (q w).Passes (q w).handles (q w).creates (made w) p.native
      ((x w).exec p.native))
    (hs : ∀ w, p.Stores (q w).creates (made w) store) :
    Transition p call (p.on object fun w => p.invoke (x w) store) ∧
      (p.on object fun w => p.invoke (x w) store).2.Tidy := by
  refine on_transition ht (fun h => ⟨by rw [hq, h]; rfl, hc⟩) fun w hw => ?_
  exact invoke_transition (q w) ht (by rw [hq, hw]; rfl) (hx w) (hs w)

/-- A method that frees the object of its wrapper, if it is open. -/
theorem close_transition {call : ApiCall} {k : Kind} {a : Addr} {x : JavaM T α} {b : α}
    {store : Process T → α → Process T} (hq : call.request p = none)
    (hc : call.closes p = openHandle k a) (hx : x.exec p.native = (.ok b, p.native.release k a))
    (hs : ∀ n, (store { p with native := n } b).native = n ∧
      p.handles.Perm ((openHandle k a).toList ++ (store { p with native := n } b).handles)) :
    Transition p call (p.invoke x store) := by
  obtain ⟨hnative, hperm⟩ := hs (p.native.release k a)
  rw [invoke, hx]
  by_cases ha : a = 0
  · subst ha
    exact .idle hq hc ⟨by rw [hnative]; exact .refl _, hperm.symm⟩
  · rw [openHandle_of_ne ha] at hc hperm
    exact .closed hc (by rw [hnative, Native.release, if_neg ha]) hperm

/-- The `close()` of a wrapper that keeps its object in a field. -/
theorem closeMethod_transition {ω : Type} {call : ApiCall} {object : Option ω} {k : Kind}
    {a : ω → Addr} {x : ω → JavaM T α} {b : ω → α} {store : Process T → α → Process T}
    (ht : p.Tidy) (hq : call.request p = none)
    (hc : call.closes p = object.bind fun w => openHandle k (a w))
    (hx : ∀ w, (x w).exec p.native = (.ok (b w), p.native.release k (a w)))
    (hs : ∀ w, object = some w → ∀ n, (store { p with native := n } (b w)).native = n ∧
      p.handles.Perm ((openHandle k (a w)).toList ++
        (store { p with native := n } (b w)).handles))
    (htidy : ∀ w n, (store { p with native := n } (b w)).Tidy) :
    Transition p call (p.on object fun w => p.invoke (x w) store) ∧
      (p.on object fun w => p.invoke (x w) store).2.Tidy := by
  refine on_transition ht (fun h => ⟨hq, by rw [hc, h]; rfl⟩) fun w hw => ⟨?_, ?_⟩
  · exact close_transition hq (by rw [hc, hw]; rfl) (hx w) (hs w hw)
  · rw [invoke, hx w]
    exact htidy w _

/-- A frame the program refers to is not forgotten. -/
theorem frame?_eq_some {d : Nat} {w : DataFusionDataFrameImpl} (h : p.frame? d = some w) :
    p.frames[d]? = some ⟨w, false⟩ := by
  unfold frame? at h
  split at h
  · rename_i hf
    rw [hf, Option.some.inj h]
  · cases h

/-- A frame that has been forgotten is marked so. -/
theorem dropped?_eq_some {d : Nat} {w : DataFusionDataFrameImpl} (h : p.dropped? d = some w) :
    p.frames[d]? = some ⟨w, true⟩ := by
  unfold dropped? at h
  split at h
  · rename_i hf
    rw [hf, Option.some.inj h]
  · cases h

/-- Replacing a frame by one that is as tidy. -/
theorem Tidy.set {d : Nat} {f : Frame} (ht : p.Tidy)
    (hf : f.wrapper.cleaned = true ↔ f.wrapper.pointer = 0) (n : Native T) :
    ({ p with native := n, frames := p.frames.set d f } : Process T).Tidy := by
  intro g hg
  rcases List.mem_or_eq_of_mem_set hg with hg | rfl
  · exact ht g hg
  · exact hf

/-- Cleaning a frame, at the program's request or not. -/
theorem clean_transition {call : ApiCall} {d : Nat} {w : DataFusionDataFrameImpl} {dropped : Bool}
    (ht : p.Tidy) (hf : p.frames[d]? = some ⟨w, dropped⟩) (hq : call.request p = none)
    (hc : call.closes p = openHandle .dataframe w.pointer) :
    Transition p call
        (p.invoke w.clean fun p w => { p with frames := p.frames.set d ⟨w, dropped⟩ }) ∧
      (p.invoke w.clean fun p w => { p with frames := p.frames.set d ⟨w, dropped⟩ }).2.Tidy := by
  have hw := ht _ (List.mem_of_getElem? hf)
  cases hcl : w.cleaned with
  | true =>
      rw [openHandle, if_pos (hw.mp hcl)] at hc
      rw [invoke, exec_clean_of_cleaned hcl]
      refine ⟨.idle hq hc ⟨.refl _, ?_⟩, ht.set hw p.native⟩
      simp only [handles, filterMap_set_of_eq hf rfl]
      exact .refl _
  | false =>
      refine ⟨close_transition hq hc (exec_clean_of_not hcl p.native) fun n =>
        ⟨rfl, handles_closeFrame hf rfl⟩, ?_⟩
      rw [invoke, exec_clean_of_not hcl]
      exact ht.set (by simp) _

/-- The checks of a method that looks at one pointer. -/
theorem passes_one {given : Prop} {k : Kind} {a : Addr} {copied : List Handle}
    {creates : Option Kind} :
    (⟨given, [(k, a)], copied, creates⟩ : Request).Passes ↔ given ∧ a ≠ 0 := by
  simp [Request.Passes]

/-- **What a call does.** -/
theorem perform_transition (E : Engine T) (call : ApiCall) (ht : p.Tidy) :
    Transition p call (p.perform E call) ∧ (p.perform E call).2.Tidy := by
  cases call with
  | createRuntime =>
      exact invoke_transition _ ht rfl ((reaches_createRuntime E p.native).imp
        (by simp [Request.Passes]) fun _ _ h => h) stores_addRuntime
  | newSession r =>
      exact method_transition (fun w => ⟨True, [(.runtime, w.pointer)], [], some .session⟩) ht rfl
        rfl (fun w => (reaches_newSession E p.native w).imp (by rw [passes_one, true_and])
          fun _ _ h => h) fun w => stores_addSession w.pointer
  | closeRuntime r =>
      exact closeMethod_transition (a := DataFusionRuntimeImpl.pointer) ht rfl rfl
        (exec_closeRuntime · p.native) (fun w hw n => ⟨rfl, handles_closeRuntime hw⟩) fun _ _ => ht
  | sql s query =>
      exact method_transition (ApiCall.sessionRequest · query.Given (some .dataframe)) ht rfl rfl
        (fun w => (reaches_sql E p.native w query).imp passes_one.symm fun _ _ h => h)
        fun w => stores_addFrame w.runtimePointer
  | registerCsv s tableName path | registerParquet s tableName path =>
      exact method_transition (ApiCall.sessionRequest · (tableName.Given ∧ path.Given) none) ht rfl
        rfl (fun w => (reaches_register E p.native w (fun _ _ _ _ => ⟨rfl, rfl⟩) tableName path).imp
          passes_one.symm fun _ _ h => h) fun _ => stores_nothing _
  | closeSession s =>
      exact closeMethod_transition (a := DataFusionSessionImpl.pointer) ht rfl rfl
        (exec_closeSession · p.native) (fun w hw n => ⟨rfl, handles_closeSession hw⟩) fun _ _ => ht
  | transform d op =>
      exact method_transition (ApiCall.frameRequest · op.Given (some .dataframe)) ht rfl rfl
        (fun w => (reaches_transform E p.native w op).imp passes_one.symm fun _ _ h => h)
        fun w => stores_addFrame w.runtimePointer
  | combine d other op =>
      refine on_transition ht (fun h => ⟨by rw [ApiCall.request, h]; rfl, rfl⟩) fun w hw => ?_
      exact method_transition (fun o => ⟨op.Given ∧ op.JoinGiven,
          [(.dataframe, w.pointer), (.dataframe, otherPointer o)], [(.runtime, w.runtimePointer)],
          some .dataframe⟩) ht (by rw [ApiCall.request, hw]; rfl) rfl
        (fun o => (reaches_combine E p.native w o op).imp
          (by simp [Request.Passes, and_assoc, and_comm, and_left_comm]) fun _ _ h => h)
        fun _ => stores_addFrame w.runtimePointer
  | count d =>
      exact method_transition (ApiCall.frameRequest · True none) ht rfl rfl
        (fun w => (reaches_count E p.native w).imp
          (by rw [ApiCall.frameRequest, passes_one, true_and]) fun _ _ h => h)
        fun _ => stores_nothing _
  | collect d env =>
      exact method_transition
        (ApiCall.frameRequest · (env.allocateNew = none ∧ env.invoke = none) none) ht rfl rfl
        (fun w => (reaches_collect E p.native w env).imp
          (by rw [ApiCall.frameRequest, passes_one, and_comm]) fun _ _ h => h)
        fun _ => stores_addReader _
  | closeFrame d =>
      refine on_transition ht (fun h => ⟨rfl, by rw [ApiCall.closes, h]; rfl⟩) fun w hw => ?_
      exact clean_transition ht (frame?_eq_some hw) rfl (by rw [ApiCall.closes, hw]; rfl)
  | drop d =>
      refine on_transition ht (fun _ => ⟨rfl, rfl⟩) fun w hw => ?_
      have hf := frame?_eq_some hw
      refine ⟨.idle rfl rfl ⟨.refl _, ?_⟩,
        ht.set (f := ⟨w, true⟩) (ht ⟨w, false⟩ (List.mem_of_getElem? hf)) p.native⟩
      simp only [handles, filterMap_set_of_eq hf (show Frame.handle ⟨w, true⟩ = _ from rfl)]
      exact .refl _
  | clean d =>
      refine on_transition ht (fun h => ⟨rfl, by rw [ApiCall.closes, h]; rfl⟩) fun w hw => ?_
      exact clean_transition ht (dropped?_eq_some hw) rfl (by rw [ApiCall.closes, hw]; rfl)
  | reader i call =>
      refine on_transition ht (fun _ => ⟨rfl, rfl⟩) fun r _ => ⟨?_, ht⟩
      exact .idle rfl rfl ⟨same_readerCall ⟨⟨p.native, r.1⟩, r.2⟩ call, .refl _⟩

/-- There is no step after the process is gone. -/
theorem step_of_halted (E : Engine T) (call : ApiCall) (h : p.halted = true) :
    p.step E call = (none, p) := by rw [step, if_pos h]

/-- A step of a running process is its call. -/
theorem step_of_running (E : Engine T) (call : ApiCall) (h : p.halted = false) :
    p.step E call = p.perform E call := by rw [step, h]; rfl

end Process

end DataFusionPanama
