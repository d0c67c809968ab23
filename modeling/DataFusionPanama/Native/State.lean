import DataFusionPanama.Base.Prog
import DataFusionPanama.Engine

/-!
# DataFusionPanama.Native.State

The native side of the process: the boxes behind `*mut DFRuntime`,
`*mut DFSession` and `*mut DFDataFrame`, the boxed `DFResult`s, and the
`ArrowArrayStream` structs the caller allocates for Rust to fill.

`trace` and `ledger` record what happened to the objects and to the
results, in order, and `lost` the streams nothing can release any more.  They
are ghosts: no function reads them, and every statement about "freed exactly
once", "passed while alive" or "nothing is left" is read off them.

A `Downcall` is one call of an exported function that returns a
`*mut DFResult`, with its arguments.  String arguments are addresses in the
caller's arena (`Mem`).
-/

namespace DataFusionPanama

/-! ## boxes -/

/-- What a boxed object is. -/
inductive Kind where
  | runtime | session | dataframe
  deriving DecidableEq, Repr

/-- The content of a box: `DFRuntime`, `DFSession` or `DFDataFrame`. -/
inductive Obj (T : Types) where
  | runtime
  | session (context : T.Ctx)
  | dataframe (dataframe : T.Plan)

def Obj.kind {T : Types} : Obj T → Kind
  | .runtime => .runtime
  | .session _ => .session
  | .dataframe _ => .dataframe

/-- Opaque result type returned by FFI functions. -/
structure DFResult where
  value : Addr
  error : Option CString
  deriving DecidableEq

/-- An exported Arrow stream: its schema and the batches not read yet. -/
structure Stream (T : Types) where
  schema : T.Schema
  batches : List T.Batch

/-! ## the exported functions -/

/-- The functions from one frame to a new one, over a type of strings and a
type of string arrays: addresses at the boundary, Java strings on the one
side of it and texts on the other. -/
inductive UnaryOp (Str Strs : Type) where
  | filter (expr : Str)
  | select (exprs : Strs)
  | limit (skip fetch : Int)
  | sort (exprs : Strs)
  | distinct
  | aggregate (groupExprs aggrExprs : Strs)
  | selectColumns (cols : Strs)
  | dropColumns (cols : Strs)
  | withColumn (name expr : Str)
  | withColumnRenamed (oldName newName : Str)
  | explain (verbose analyze : Bool)
  deriving DecidableEq, Repr

/-- The functions from two frames to a new one, over a type of join types
and a type of string arrays. -/
inductive BinaryOp (Join Strs : Type) where
  | join (joinType : Join) (leftCols rightCols : Strs)
  | union
  | unionDistinct
  | except
  | intersect
  deriving DecidableEq, Repr

/-- A `*const *const c_char` and its length. -/
abbrev StrArray := Addr × Nat

/-- A call of an exported function that returns a `*mut DFResult`. -/
inductive Downcall where
  | runtimeNew
  | sessionNew (runtime : Addr)
  | sessionSql (runtime session sql : Addr)
  | sessionRegisterCsv (runtime session tableName path : Addr)
  | sessionRegisterParquet (runtime session tableName path : Addr)
  | dataframeCollect (runtime dataframe streamOut : Addr)
  | dataframeCount (runtime dataframe : Addr)
  | unary (op : UnaryOp Addr StrArray) (runtime dataframe : Addr)
  | binary (op : BinaryOp Int StrArray) (runtime left right : Addr)
  deriving DecidableEq, Repr

/-- The runtime, session and dataframe pointers among the arguments. -/
def Downcall.handles : Downcall → List (Kind × Addr)
  | .runtimeNew => []
  | .sessionNew rt => [(.runtime, rt)]
  | .sessionSql rt sess _ | .sessionRegisterCsv rt sess _ _
  | .sessionRegisterParquet rt sess _ _ => [(.runtime, rt), (.session, sess)]
  | .dataframeCollect rt df _ | .dataframeCount rt df | .unary _ rt df =>
      [(.runtime, rt), (.dataframe, df)]
  | .binary _ rt left right => [(.runtime, rt), (.dataframe, left), (.dataframe, right)]

/-- What the success value of a call is a pointer to, if it is one. -/
def Downcall.creates : Downcall → Option Kind
  | .runtimeNew => some .runtime
  | .sessionNew _ => some .session
  | .sessionSql .. | .unary .. | .binary .. => some .dataframe
  | .sessionRegisterCsv .. | .sessionRegisterParquet .. => none
  | .dataframeCollect .. | .dataframeCount .. => none

/-! ## the state -/

/-- What happened to the native objects. -/
inductive Event where
  /-- An exported function is entered. -/
  | call (c : Downcall)
  /-- `Box::into_raw` of an object. -/
  | alloc (k : Kind) (p : Addr)
  /-- `drop(Box::from_raw(p))`. -/
  | free (k : Kind) (p : Addr)
  deriving DecidableEq, Repr

/-- What happened to the boxed `DFResult`s. -/
inductive ResultEvent where
  | new (r : Addr)
  | read (r : Addr)
  | free (r : Addr)
  deriving DecidableEq, Repr

/-- The native side of the process. -/
structure Native (T : Types) where
  boxes : Store (Obj T)
  results : Store DFResult
  /-- Caller-allocated `ArrowArrayStream` structs; `none` is a released one. -/
  streams : Store (Option (Stream T))
  trace : List Event
  ledger : List ResultEvent
  /-- The streams (the batches and the box that holds them) that were still
  behind a struct when its memory was given back or written over. -/
  lost : List (Stream T)

namespace Native

variable {T : Types}

def empty : Native T := ⟨.empty, .empty, .empty, [], [], []⟩

def log (n : Native T) (e : Event) : Native T := { n with trace := n.trace ++ [e] }

def enter (n : Native T) (e : ResultEvent) : Native T := { n with ledger := n.ledger ++ [e] }

/-- The kind of the live object at an address. -/
def kind? (n : Native T) (p : Addr) : Option Kind := (n.boxes.get? p).map Obj.kind

/-- Put an object into a new box. -/
def box (n : Native T) (o : Obj T) : Native T :=
  { n with boxes := (n.boxes.alloc o).2 }.log (.alloc o.kind (n.boxes.alloc o).1)

/-- Drop the box at an address. -/
def unbox (n : Native T) (k : Kind) (p : Addr) : Native T :=
  { n with boxes := n.boxes.free p }.log (.free k p)

/-- The stream behind a struct, unless it has been released. -/
def content (n : Native T) (p : Addr) : Option (Stream T) := (n.streams.get? p).join

/-- Write a stream into a struct, over what is there. -/
def populate (n : Native T) (p : Addr) (stream : Stream T) : Native T :=
  { n with
    streams := n.streams.put p (some stream)
    lost := n.lost ++ (n.content p).toList }

/-- Give the memory of a struct back.  This does not release a stream that
is still behind it. -/
def freeStruct (n : Native T) (p : Addr) : Native T :=
  { n with
    streams := n.streams.free p
    lost := n.lost ++ (n.content p).toList }

/-- The address the next box will get. -/
def next (n : Native T) : Addr := n.boxes.cells.length + 1

/-- Same objects, same trace: the content of boxes, the results and the
streams may differ.  This is the frame condition of everything that neither
boxes nor frees. -/
structure Same (n n' : Native T) : Prop where
  kind? : ∀ p, n'.kind? p = n.kind? p
  next : n'.next = n.next
  trace : n'.trace = n.trace

/-- Nothing has changed. -/
theorem Same.refl (n : Native T) : Same n n := ⟨fun _ => rfl, rfl, rfl⟩

/-- A frame condition holds of two steps after each other. -/
theorem Same.trans {a b c : Native T} (h : Same a b) (h' : Same b c) : Same a c :=
  ⟨fun p => (h'.kind? p).trans (h.kind? p), h'.next.trans h.next, h'.trace.trans h.trace⟩

@[simp] theorem trace_log (n : Native T) (e : Event) : (n.log e).trace = n.trace ++ [e] := rfl

/-- No box is at the null address. -/
@[simp] theorem next_ne_null (n : Native T) : n.next ≠ 0 := Nat.succ_ne_zero _

@[simp] theorem streams_freeStruct (n : Native T) (p : Addr) :
    (n.freeStruct p).streams = n.streams.free p := rfl

/-- Writing to a struct that has no stream loses nothing. -/
theorem lost_populate {n : Native T} {p : Addr} (h : n.content p = none) (stream : Stream T) :
    (n.populate p stream).lost = n.lost := by
  rw [populate, h, Option.toList_none, List.append_nil]

/-- Nor does giving such a struct back lose anything. -/
theorem freeStruct_eq {n : Native T} {p : Addr} (h : n.content p = none) :
    n.freeStruct p = { n with streams := n.streams.free p } := by
  rw [freeStruct, h, Option.toList_none, List.append_nil]

/-- A struct that has been released is given back without a loss. -/
theorem freeStruct_released (n : Native T) (streams : Store (Option (Stream T))) (p : Addr) :
    { n with streams := streams.put p none }.freeStruct p =
      { n with streams := (streams.put p none).free p } := by
  refine freeStruct_eq ?_
  rw [content]
  cases h : streams.get? p with
  | none => rw [Store.put_of_none h, h]; rfl
  | some x => rw [Store.get?_put_self h]; rfl

/-- No live object has the next address. -/
@[simp] theorem kind?_next (n : Native T) : n.kind? n.next = none := by
  cases h : n.boxes.get? n.next with
  | none => simp [kind?, h]
  | some o => exact absurd (Store.live_iff.mpr ⟨o, h⟩) (Store.not_live_alloc n.boxes o)

@[simp] theorem kind?_null (n : Native T) : n.kind? 0 = none := rfl

/-- A new box is at the next address, and the others are as they were. -/
theorem kind?_box (n : Native T) (o : Obj T) (p : Addr) :
    (n.box o).kind? p = if p = n.next then some o.kind else n.kind? p := by
  by_cases hp : p = n.next
  · subst hp
    rw [if_pos rfl]
    exact congrArg (Option.map Obj.kind) (Store.get?_alloc_self n.boxes o)
  · rw [if_neg hp]
    exact congrArg (Option.map Obj.kind) (Store.get?_alloc_of_ne hp)

@[simp] theorem trace_box (n : Native T) (o : Obj T) :
    (n.box o).trace = n.trace ++ [.alloc o.kind n.next] := rfl

/-- Addresses are handed out in order. -/
@[simp] theorem next_box (n : Native T) (o : Obj T) : (n.box o).next = n.next + 1 := by
  simp [next, box, log]

/-- Dropping a box leaves the others. -/
theorem kind?_unbox (n : Native T) (k : Kind) (p q : Addr) :
    (n.unbox k p).kind? q = if q = p then none else n.kind? q := by
  by_cases hq : q = p
  · subst hq
    simp [unbox, log, kind?]
  · rw [if_neg hq]
    exact congrArg (Option.map Obj.kind) (Store.get?_free_of_ne hq)

@[simp] theorem trace_unbox (n : Native T) (k : Kind) (p : Addr) :
    (n.unbox k p).trace = n.trace ++ [.free k p] := rfl

/-- No address is handed out twice, also after a drop. -/
@[simp] theorem next_unbox (n : Native T) (k : Kind) (p : Addr) :
    (n.unbox k p).next = n.next := by
  simp [next, unbox, log]

end Native

/-! ## the caller's arena -/

/-- A segment of the caller's arena: bytes, or an array of addresses. -/
inductive Segment where
  | bytes (bs : List UInt8)
  | pointers (ps : List Addr)
  deriving DecidableEq, Repr

/-- The arena the string arguments of one call live in. -/
abbrev Mem := Store Segment

/-- A Rust body: a stateful computation that ends in a value, an `Err` or a
panic. -/
abbrev FfiM (T : Types) (α : Type) := Prog (Native T) Fault α

end DataFusionPanama
