import DataFusionPanama.Base.Binding
import DataFusionPanama.Expr

/-!
# DataFusionPanama.Refine

The same programs over handles.  `Machine` runs a statement as the native
API does it: a pointer per variable, boxes behind the pointers, structs
behind the streams, frees when the program says so.

`Refines` relates it to the meaning of the program: the box behind a
frame's variable holds the plan of the variable's expression, and the
struct behind a stream's variable holds what of its frame's stream has not
been read.  One statement keeps it, whatever the statement shares, fails or
frees, so a program sees the same in both worlds.
-/

namespace DataFusionPanama

variable {T : Types} {α : Type}

/-- A program on handles. -/
structure Machine (T : Types) where
  native : Native T
  runtime : Addr
  alive : Bool
  sessions : Nat → Option Addr
  frames : Nat → Option Addr
  streams : Nat → Option Addr
  outputs : List (Output T)
  halted : Bool

namespace Machine

variable (E : Engine T) (m : Machine T)

def see (r : Except Stop α) (output : Output T) : Machine T :=
  { m with outputs := m.outputs ++ [output], halted := aborts r }

/-- A native call and its result. -/
def invoke (mem : Mem) (c : Downcall) : Except Stop Addr × Machine T :=
  let (r, n) := (call E mem c).exec m.native
  (r, { m with native := n })

def bindSession (x : Nat) (mem : Mem) (c : Downcall) : Machine T :=
  let (r, m) := m.invoke E mem c
  { m.see r (.ofCall r) with sessions := Function.update m.sessions x r.toOption }

def bindFrame (x : Nat) (mem : Mem) (c : Downcall) : Machine T :=
  let (r, m) := m.invoke E mem c
  { m.see r (.ofCall r) with frames := Function.update m.frames x r.toOption }

/-- A new struct for a stream. -/
def allocStream : Addr × Machine T :=
  let (p, streams) := m.native.streams.alloc none
  (p, { m with native := { m.native with streams := streams } })

/-- What is left of a stream. -/
def stream? (p : Addr) : Option (Stream T) := (m.native.streams.get? p).join

/-- Take the next batch out of a struct. -/
def advance (p : Addr) (s : Stream T) : Machine T :=
  { m with native := { m.native with
      streams := m.native.streams.put p (some { s with batches := s.batches.tail }) } }

/-- A statement on what is bound. -/
def exec : Stmt → Machine T
  | .newSession x => m.bindSession E x .empty (.sessionNew m.runtime)
  | .register format x table => match m.sessions x with
      | none => m
      | some s =>
          let (r, m) := m.invoke E table.mem
            (format.downcall m.runtime s table.arg.1 table.arg.2)
          m.see r (.ofCall r)
  | .sql x y query => match m.sessions y with
      | none => m
      | some s => m.bindFrame E x query.mem (.sessionSql m.runtime s query.arg)
  | .unary x y op => match m.frames y with
      | none => m
      | some f => m.bindFrame E x op.mem (.unary op.arg m.runtime f)
  | .binary x y z op => match m.frames y, m.frames z with
      | some l, some r => m.bindFrame E x op.mem (.binary op.arg m.runtime l r)
      | _, _ => m
  | .count x => match m.frames x with
      | none => m
      | some f =>
          let (r, m) := m.invoke E .empty (.dataframeCount m.runtime f)
          m.see r (.count r)
  | .collect x y => match m.frames y with
      | none => m
      | some f =>
          let (p, m) := m.allocStream
          let (r, m) := m.invoke E .empty (.dataframeCollect m.runtime f p)
          { m.see r (.ofCall r) with
            streams := Function.update m.streams x (r.toOption.map fun _ => p) }
  | .schema x => match m.streams x with
      | none => m
      | some p => { m with outputs := m.outputs ++ [.schema ((m.stream? p).map Stream.schema)] }
  | .next x => match m.streams x with
      | none => m
      | some p => match m.stream? p with
          | none => { m with outputs := m.outputs ++ [.batch none] }
          | some s => { m.advance p s with outputs := m.outputs ++ [.batch s.batches.head?] }
  | .freeSession x => match m.sessions x with
      | none => m
      | some s =>
          { m with native := sessionFree s m.native, sessions := Function.update m.sessions x none }
  | .freeFrame x => match m.frames x with
      | none => m
      | some f =>
          { m with native := dataframeFree f m.native, frames := Function.update m.frames x none }
  | .freeRuntime =>
      if m.alive then { m with native := runtimeFree m.runtime m.native, alive := false } else m

def step (s : Stmt) : Machine T :=
  if m.halted || s.needsRuntime && !m.alive then m else m.exec E s

end Machine

/-! ## the relation -/

def SessionIs (E : Engine T) (boxes : Store (Obj T)) (p : Addr) (s : SessionExpr) : Prop :=
  ∃ context, s.eval E = .ok context ∧ boxes.get? p = some (.session context)

def FrameIs (E : Engine T) (boxes : Store (Obj T)) (p : Addr) (f : FrameExpr) : Prop :=
  ∃ df, f.eval E = .ok df ∧ boxes.get? p = some (.dataframe df)

def StreamIs (E : Engine T) (streams : Store (Option (Stream T))) (p : Addr)
    (s : FrameExpr × Nat) : Prop :=
  ∃ stream, s.1.collect E = .ok stream ∧
    streams.get? p = some (some ⟨stream.schema, stream.batches.drop s.2⟩)

section Is

variable {E : Engine T} {boxes boxes' : Store (Obj T)} {p : Addr}

/-- What stands for an expression goes on to while its box is kept. -/
theorem SessionIs.mono {s : SessionExpr} (h : SessionIs E boxes p s)
    (hb : ∀ o, o.kind = .session → boxes.get? p = some o → boxes'.get? p = some o) :
    SessionIs E boxes' p s := by
  obtain ⟨context, hs, hp⟩ := h
  exact ⟨context, hs, hb _ rfl hp⟩

theorem FrameIs.mono {f : FrameExpr} (h : FrameIs E boxes p f)
    (hb : ∀ o, o.kind = .dataframe → boxes.get? p = some o → boxes'.get? p = some o) :
    FrameIs E boxes' p f := by
  obtain ⟨df, hf, hp⟩ := h
  exact ⟨df, hf, hb _ rfl hp⟩

theorem StreamIs.mono {streams streams' : Store (Option (Stream T))} {s : FrameExpr × Nat}
    (h : StreamIs E streams p s)
    (hb : ∀ o, streams.get? p = some o → streams'.get? p = some o) : StreamIs E streams' p s := by
  obtain ⟨stream, hs, hp⟩ := h
  exact ⟨stream, hs, hb _ hp⟩

end Is

/-- The handles stand for the expressions. -/
structure Refines (E : Engine T) (m : Machine T) (q : Meaning T) : Prop where
  alive : m.alive = q.alive
  runtime : m.alive = true → m.native.boxes.get? m.runtime = some .runtime
  sessions : Tracks (SessionIs E m.native.boxes) m.sessions q.sessions
  frames : Tracks (FrameIs E m.native.boxes) m.frames q.frames
  streams : Tracks (StreamIs E m.native.streams) m.streams q.streams
  outputs : m.outputs = q.outputs
  halted : m.halted = q.halted

/-! ## native calls -/

section Calls

variable {E : Engine T} {mem : Mem} {c : Downcall} {n n₁ : Native T}

/-- A call is seen as the outcome of its body. -/
theorem call_seen (mem : Mem) (c : Downcall) {o : Outcome Addr}
    (hb : (c.body E mem).exec (n.log (.call c)) = (o, n₁)) :
    ∃ n₂, (call E mem c).exec n = (seen o, n₂) ∧ n₂.boxes = n₁.boxes ∧
      n₂.streams = n₁.streams ∧ n₂.lost = n₁.lost := by
  cases o with
  | ok v => exact ⟨_, exec_call _ _ hb (by simp), rfl, rfl, rfl⟩
  | error f =>
      have hseen : seen (.error f : Outcome Addr) = .error f.stop := rfl
      rw [hseen, Fault.stop]
      split
      · next hnul => exact ⟨n₁, exec_call_aborted _ _ hb hnul, rfl, rfl, rfl⟩
      · next hnul => exact ⟨_, exec_call _ _ hb (by rintro _ ⟨⟩; exact hnul), rfl, rfl, rfl⟩

end Calls

/-! ## one change at a time -/

namespace Refines

variable {E : Engine T} {m : Machine T} {q : Meaning T}

/-- The two sides see the same. -/
theorem see (h : Refines E m q) {β : Type} (r : Except Stop α) (r' : Except Stop β)
    (out : Output T) {out' : Output T} (ha : aborts r = aborts r') (ho : out = out') :
    Refines E (m.see r out) (q.see r' out') :=
  { h with
    outputs := by rw [Machine.see, Meaning.see, h.outputs, ho]
    halted := ha }

/-- Boxes that are there stay as they are. -/
theorem grow (h : Refines E m q) {n : Native T}
    (hb : ∀ p o, m.native.boxes.get? p = some o → n.boxes.get? p = some o)
    (hs : n.streams = m.native.streams) : Refines E { m with native := n } q :=
  { h with
    runtime := fun ha => hb _ _ (h.runtime ha)
    sessions := h.sessions.imp fun _ _ _ _ hs => hs.mono fun _ _ hp => hb _ _ hp
    frames := h.frames.imp fun _ _ _ _ hf => hf.mono fun _ _ hp => hb _ _ hp
    streams := hs ▸ h.streams }

/-- The context behind a session changes. -/
theorem change (h : Refines E m q) {x : Nat} {p : Addr} {s : SessionExpr} {context : T.Ctx}
    {n : Native T} (hx : m.sessions x = some p) (hs : s.eval E = .ok context)
    (hp : n.boxes.get? p = some (.session context))
    (hb : ∀ p' o, p' ≠ p → m.native.boxes.get? p' = some o → n.boxes.get? p' = some o)
    (hstreams : n.streams = m.native.streams) :
    Refines E { m with native := n }
      { q with sessions := Function.update q.sessions x (some s) } := by
  -- the box of a session is that of no runtime and no frame
  obtain ⟨s₀, -, context₀, -, hbox⟩ := h.sessions.value hx
  have hother : ∀ p' o, m.native.boxes.get? p' = some o → o.kind ≠ .session →
      n.boxes.get? p' = some o := fun p' o hp' hk => by
    refine hb p' o (fun he => ?_) hp'
    rw [he, hbox, Option.some.injEq] at hp'
    exact hk (hp' ▸ rfl)
  exact
    { h with
      runtime := fun ha => hother _ _ (h.runtime ha) (by simp [Obj.kind])
      sessions := h.sessions.change hx
        (fun p' _ hne hs' => hs'.mono fun o _ hp' => hb p' o hne hp') ⟨context, hs, hp⟩
      frames := h.frames.imp fun _ _ _ _ hf =>
        hf.mono fun o hk hp' => hother _ o hp' (by simp [hk])
      streams := hstreams ▸ h.streams }

/-- A box that has just been allocated is new to every variable. -/
private theorem fresh {β : Type} {R : Addr → β → Prop} {vars : Nat → Option Addr}
    {values : Nat → Option β} (n : Native T) (h : Tracks R vars values)
    (hR : ∀ p b, R p b → n.boxes.Live p) (i : Nat) : vars i ≠ some n.next := fun hi => by
  obtain ⟨b, -, hb⟩ := h.value hi
  exact Store.not_live_alloc n.boxes .runtime (hR _ b hb)

/-- What a creating call returns: the handle of a box with the object in it. -/
private def Returns {β : Type} (wrap : β → Obj T) (n n₂ : Native T) (r : Except Stop Addr) :
    Outcome β → Prop
  | .ok b => r = .ok n.next ∧ n₂.boxes.get? n.next = some (wrap b)
  | .error _ => r.toOption = none

/-- A call that creates an object: seen as it is meant, and the object is
behind the new handle. -/
private theorem create {β : Type} {wrap : β → Obj T} {o : Outcome β} {mem : Mem} {c : Downcall}
    {n : Native T} (hb : (c.body E mem).exec (m.native.log (.call c)) = (makeObj wrap o).exec n)
    (h : Refines E { m with native := n } q) :
    ∃ r n₂, (call E mem c).exec m.native = (r, n₂) ∧
      Refines E ({ m with native := n₂ }.see r (.ofCall r)) (q.called o) ∧
      Returns wrap n n₂ r o := by
  cases o with
  | error e =>
      obtain ⟨n₂, hcall, hboxes, hstreams, -⟩ :=
        call_seen _ _ (hb.trans (exec_makeObj_error wrap e n))
      have hgrow := h.grow (n := n₂) (fun p o hp => hboxes ▸ hp) hstreams
      exact ⟨_, n₂, hcall, hgrow.see _ _ _ rfl rfl, rfl⟩
  | ok b =>
      obtain ⟨n₂, hcall, hboxes, hstreams, -⟩ :=
        call_seen _ _ (hb.trans (exec_makeObj_ok wrap b n))
      have hgrow := h.grow (n := n₂)
        (fun p o hp => by rw [hboxes]; exact Store.get?_alloc_of_some hp) hstreams
      refine ⟨_, n₂, hcall, hgrow.see _ _ _ rfl rfl, rfl, ?_⟩
      rw [hboxes]
      exact Store.get?_alloc_self n.boxes _

/-- A call that creates a frame. -/
theorem bindFrame (x : Nat) {mem : Mem} {c : Downcall} {f : FrameExpr} {n : Native T}
    (hb : (c.body E mem).exec (m.native.log (.call c)) = (makeFrame (f.eval E)).exec n)
    (h : Refines E { m with native := n } q) :
    Refines E (m.bindFrame E x mem c) (q.bindFrame E x f) := by
  obtain ⟨r, n₂, hcall, hsee, hr⟩ := create hb h
  unfold Machine.bindFrame Machine.invoke Meaning.bindFrame
  rw [hcall]
  cases hf : f.eval E with
  | error e =>
      rw [hf] at hsee hr
      have hr : r.toOption = none := hr
      dsimp only
      rw [hr]
      exact { hsee with frames := hsee.frames.unbind x }
  | ok df =>
      rw [hf] at hsee hr
      obtain ⟨rfl, hbox⟩ := hr
      exact
        { hsee with
          frames := hsee.frames.bind x ⟨df, hf, hbox⟩ (fresh n h.frames
            fun p b ⟨_, _, hp⟩ => Store.live_iff.mpr ⟨_, hp⟩) }

/-- A call that creates a session. -/
theorem bindSession (x : Nat) {mem : Mem} {c : Downcall} {s : SessionExpr} {n : Native T}
    (hb : (c.body E mem).exec (m.native.log (.call c)) = (makeObj .session (s.eval E)).exec n)
    (h : Refines E { m with native := n } q) :
    Refines E (m.bindSession E x mem c) (q.bindSession E x s) := by
  obtain ⟨r, n₂, hcall, hsee, hr⟩ := create hb h
  unfold Machine.bindSession Machine.invoke Meaning.bindSession
  rw [hcall]
  cases hs : s.eval E with
  | error e =>
      rw [hs] at hsee hr
      have hr : r.toOption = none := hr
      dsimp only
      rw [hr]
      exact { hsee with sessions := hsee.sessions.unbind x }
  | ok context =>
      rw [hs] at hsee hr
      obtain ⟨rfl, hbox⟩ := hr
      exact
        { hsee with
          sessions := hsee.sessions.bind x ⟨context, hs, hbox⟩ (fresh n h.sessions
            fun p b ⟨_, _, hp⟩ => Store.live_iff.mpr ⟨_, hp⟩) }

/-- Only the streams change. -/
theorem restream (h : Refines E m q) {n : Native T} (hb : n.boxes = m.native.boxes)
    {vars : Nat → Option Addr} {values : Nat → Option (FrameExpr × Nat)}
    (hs : Tracks (StreamIs E n.streams) vars values) :
    Refines E { m with native := n, streams := vars } { q with streams := values } :=
  { h with
    runtime := fun ha => hb ▸ h.runtime ha
    sessions := hb ▸ h.sessions
    frames := hb ▸ h.frames
    streams := hs }

/-- Entering a function changes nothing yet. -/
theorem log (h : Refines E m q) (e : Event) : Refines E { m with native := m.native.log e } q :=
  h.grow (fun _ _ hp => hp) rfl

/-- The context of a session is replaced. -/
theorem putContext (h : Refines E m q) {x : Nat} {p : Addr} {s : SessionExpr} {old new : T.Ctx}
    (hx : m.sessions x = some p) (hold : m.native.boxes.get? p = some (.session old))
    (hs : s.eval E = .ok new) (e : Event) :
    Refines E { m with native := { m.native.log e with
        boxes := m.native.boxes.put p (.session new) } }
      { q with sessions := Function.update q.sessions x (some s) } :=
  h.change hx hs (Store.get?_put_self hold)
    (fun _ _ hne hp => by rw [← hp]; exact Store.get?_put_of_ne hne) rfl

/-! ## one statement -/

/-- A query. -/
theorem exec_sql (h : Refines E m q) (ha : m.alive = true) (x y : Nat) (query : StoredText) :
    Refines E (m.exec E (.sql x y query)) (q.exec E (.sql x y query)) := by
  cases hy : m.sessions y with
  | none =>
      have hq := h.sessions.value_none hy
      simp only [Machine.exec, Meaning.exec, hy, hq]
      exact h
  | some p =>
      obtain ⟨s, hq, context, hs, hp⟩ := h.sessions.value hy
      simp only [Machine.exec, Meaning.exec, hy, hq]
      have hnew : (SessionExpr.sql s query.strings).eval E =
          .ok (sqlIn E context query.strings).2 := by
        rw [SessionExpr.eval, hs]
        rfl
      have hput := h.putContext hy hp hnew (.call (.sessionSql m.runtime p query.arg))
      refine hput.bindFrame x (f := .sql s query.strings) ?_
      rw [FrameExpr.eval, hs]
      exact exec_sessionSql_eq (h.runtime ha) hp query.stored

theorem exec_unary (h : Refines E m q) (ha : m.alive = true) (x y : Nat) (op : StoredUnary) :
    Refines E (m.exec E (.unary x y op)) (q.exec E (.unary x y op)) := by
  cases hy : m.frames y with
  | none =>
      have hq := h.frames.value_none hy
      simp only [Machine.exec, Meaning.exec, hy, hq]
      exact h
  | some p =>
      obtain ⟨f, hq, df, hf, hp⟩ := h.frames.value hy
      simp only [Machine.exec, Meaning.exec, hy, hq]
      refine bindFrame x ?_ (h.log (.call (.unary op.arg m.runtime p)))
      rw [FrameExpr.eval, hf]
      exact exec_unaryOp (h.runtime ha) hp op.stored

theorem exec_binary (h : Refines E m q) (ha : m.alive = true) (x y z : Nat) (op : StoredBinary) :
    Refines E (m.exec E (.binary x y z op)) (q.exec E (.binary x y z op)) := by
  cases hy : m.frames y with
  | none =>
      have hq := h.frames.value_none hy
      simp only [Machine.exec, Meaning.exec, hy, hq]
      exact h
  | some l =>
      obtain ⟨f, hq, df, hf, hl⟩ := h.frames.value hy
      cases hz : m.frames z with
      | none =>
          have hq' := h.frames.value_none hz
          simp only [Machine.exec, Meaning.exec, hy, hq, hz, hq']
          exact h
      | some r =>
          obtain ⟨g, hq', dg, hg, hr⟩ := h.frames.value hz
          simp only [Machine.exec, Meaning.exec, hy, hq, hz, hq']
          refine bindFrame x ?_ (h.log (.call (.binary op.arg m.runtime l r)))
          rw [FrameExpr.eval, hf, hg]
          exact exec_binaryOp (h.runtime ha) hl hr op.stored

/-- A registration replaces the context. -/
theorem exec_register (h : Refines E m q) (ha : m.alive = true) (format : Format) (x : Nat)
    (table : StoredTable) :
    Refines E (m.exec E (.register format x table)) (q.exec E (.register format x table)) := by
  cases hx : m.sessions x with
  | none =>
      have hq := h.sessions.value_none hx
      simp only [Machine.exec, Meaning.exec, hx, hq]
      exact h
  | some p =>
      obtain ⟨s, hq, context, hs, hp⟩ := h.sessions.value hx
      have hbody : ∀ r p a b, (format.downcall r p a b).body E table.mem =
          registerTable E table.mem (format.register E) r p a b := fun _ _ _ _ => by
        cases format <;> rfl
      have hb := exec_registerTable_eq (E := E)
        (n := m.native.log (.call (format.downcall m.runtime p table.arg.1 table.arg.2))) format
        (h.runtime ha) hp table.stored.1 table.stored.2
      rw [← hbody] at hb
      obtain ⟨n₂, hcall, hboxes, hstreams, -⟩ := call_seen _ _ hb
      simp only [Machine.exec, Meaning.exec, hx, hq, Machine.invoke, hcall]
      have hnew : (SessionExpr.register format s table.strings).eval E =
          .ok (registerIn E format context table.strings).2 := by
        rw [SessionExpr.eval, hs]
        rfl
      have hgrow := (h.putContext hx hp hnew (.call (format.downcall m.runtime p table.arg.1
        table.arg.2))).grow (n := n₂) (fun _ _ hp => hboxes ▸ hp) hstreams
      have hmeant : (do (registerIn E format (← s.eval E) table.strings).1) =
          (registerIn E format context table.strings).1 := by
        rw [hs]
        rfl
      rw [hmeant]
      cases (registerIn E format context table.strings).1 <;> exact hgrow.see _ _ _ rfl rfl

theorem exec_newSession (h : Refines E m q) (ha : m.alive = true) (x : Nat) :
    Refines E (m.exec E (.newSession x)) (q.exec E (.newSession x)) :=
  bindSession x (exec_sessionNew (h.runtime ha)) (h.log (.call (.sessionNew m.runtime)))

theorem exec_count (h : Refines E m q) (ha : m.alive = true) (x : Nat) :
    Refines E (m.exec E (.count x)) (q.exec E (.count x)) := by
  cases hx : m.frames x with
  | none =>
      have hq := h.frames.value_none hx
      simp only [Machine.exec, Meaning.exec, hx, hq]
      exact h
  | some p =>
      obtain ⟨f, hq, df, hf, hp⟩ := h.frames.value hx
      obtain ⟨n₂, hcall, hboxes, hstreams, -⟩ := call_seen (E := E) (n := m.native) .empty
        (.dataframeCount m.runtime p) (exec_dataframeCount (h.runtime ha) hp)
      simp only [Machine.exec, Meaning.exec, hx, hq, Machine.invoke, hcall]
      have hcount : f.count E = E.count df := by rw [FrameExpr.count, hf]; rfl
      rw [hcount]
      exact (h.grow (fun _ _ hp => hboxes ▸ hp) hstreams).see _ _ _ rfl rfl

/-- A new struct is no one else's. -/
private theorem ne_new_struct (h : Refines E m q) {i : Nat} {a : Addr} (hi : m.streams i = some a) :
    a ≠ (m.native.streams.alloc none).1 := by
  rintro rfl
  obtain ⟨b, -, stream, -, hb⟩ := h.streams.value hi
  exact Store.not_live_alloc m.native.streams none (Store.live_iff.mpr ⟨_, hb⟩)

/-- A new struct that has been left empty. -/
theorem unfilled (h : Refines E m q) (x : Nat) {n : Native T} (hboxes : n.boxes = m.native.boxes)
    (hstreams : n.streams = (m.native.streams.alloc none).2) :
    Refines E { m with native := n, streams := Function.update m.streams x none }
      { q with streams := Function.update q.streams x none } := by
  refine h.restream hboxes ((h.streams.unbind x).imp fun _ _ _ _ hs => hs.mono fun _ hget => ?_)
  rw [hstreams]
  exact Store.get?_alloc_of_some hget

/-- A new struct with the stream of a frame. -/
theorem filled (h : Refines E m q) (x : Nat) {f : FrameExpr} {stream : Stream T} {n : Native T}
    (hcol : f.collect E = .ok stream) (hboxes : n.boxes = m.native.boxes)
    (hstreams : n.streams =
      (m.native.streams.alloc none).2.put (m.native.streams.alloc none).1 (some stream)) :
    Refines E
      { m with
        native := n
        streams := Function.update m.streams x (some (m.native.streams.alloc none).1) }
      { q with streams := Function.update q.streams x (some (f, 0)) } := by
  have hnew : n.streams.get? (m.native.streams.alloc none).1 = some (some stream) := by
    rw [hstreams]
    exact Store.get?_put_self (Store.get?_alloc_self m.native.streams none)
  have hold : Tracks (StreamIs E n.streams) m.streams q.streams :=
    h.streams.imp fun i a _ hi hs => hs.mono fun _ hget => by
      rw [hstreams]
      exact (Store.get?_put_of_ne (h.ne_new_struct hi)).trans (Store.get?_alloc_of_some hget)
  exact h.restream hboxes (hold.bind x (b := (f, 0)) ⟨stream, hcol, hnew⟩
    fun i hi => h.ne_new_struct hi rfl)

/-- A frame is collected into a new struct, where nothing else is. -/
theorem exec_collect (h : Refines E m q) (ha : m.alive = true) (x y : Nat) :
    Refines E (m.exec E (.collect x y)) (q.exec E (.collect x y)) := by
  cases hy : m.frames y with
  | none =>
      have hq := h.frames.value_none hy
      simp only [Machine.exec, Meaning.exec, hy, hq]
      exact h
  | some p =>
      obtain ⟨f, hq, df, hf, hp⟩ := h.frames.value hy
      have hb := exec_dataframeCollect (E := E)
        (n := { m.native with streams := (m.native.streams.alloc none).2 }.log
          (.call (.dataframeCollect m.runtime p (m.native.streams.alloc none).1)))
        (h.runtime ha) hp (Store.alloc_ne_null m.native.streams none)
      have hcollect : f.collect E = (E.collect df).map fun bs => ⟨E.schema df, bs⟩ := by
        rw [FrameExpr.collect, hf]
        rfl
      simp only [Machine.exec, Meaning.exec, hy, hq, Machine.allocStream, Machine.invoke, hcollect]
      rw [exec_bind_lift] at hb
      cases hc : E.collect df with
      | error e =>
          rw [hc] at hb
          obtain ⟨n₂, hcall, hboxes, hstreams, -⟩ := call_seen .empty
            (.dataframeCollect m.runtime p (m.native.streams.alloc none).1) hb
          rw [hcall]
          exact (h.unfilled x hboxes hstreams).see (seen (.error e : Outcome Addr))
            (seen (.error e : Outcome (Stream T))) (.ofCall (seen (.error e : Outcome Addr))) rfl
            rfl
      | ok bs =>
          rw [hc] at hb hcollect
          obtain ⟨n₂, hcall, hboxes, hstreams, -⟩ := call_seen .empty
            (.dataframeCollect m.runtime p (m.native.streams.alloc none).1) hb
          rw [hcall]
          exact (h.filled x hcollect hboxes hstreams).see (seen (.ok 0))
            (seen (.ok (⟨E.schema df, bs⟩ : Stream T))) (.ofCall (seen (.ok 0))) rfl rfl

/-- What is left in the struct of a stream. -/
theorem stream_eq (h : Refines E m q) {x : Nat} {p : Addr} (hx : m.streams x = some p) :
    ∃ f read stream, q.streams x = some (f, read) ∧ f.collect E = .ok stream ∧
      m.native.streams.get? p = some (some ⟨stream.schema, stream.batches.drop read⟩) := by
  obtain ⟨⟨f, read⟩, hq, stream, hcol, hp⟩ := h.streams.value hx
  exact ⟨f, read, stream, hq, hcol, hp⟩

theorem exec_schema (h : Refines E m q) (x : Nat) :
    Refines E (m.exec E (.schema x)) (q.exec E (.schema x)) := by
  cases hx : m.streams x with
  | none =>
      have hq := h.streams.value_none hx
      simp only [Machine.exec, Meaning.exec, hx, hq]
      exact h
  | some p =>
      obtain ⟨f, read, stream, hq, hcol, hp⟩ := h.stream_eq hx
      simp only [Machine.exec, Meaning.exec, hx, hq, Machine.stream?, hp, hcol]
      exact { h with outputs := by rw [h.outputs]; rfl }

/-- The next batch in the struct is the next batch of the frame. -/
theorem exec_next (h : Refines E m q) (x : Nat) :
    Refines E (m.exec E (.next x)) (q.exec E (.next x)) := by
  cases hx : m.streams x with
  | none =>
      have hq := h.streams.value_none hx
      simp only [Machine.exec, Meaning.exec, hx, hq]
      exact h
  | some p =>
      obtain ⟨f, read, stream, hq, hcol, hp⟩ := h.stream_eq hx
      simp only [Machine.exec, Meaning.exec, hx, hq, Machine.stream?, hp, hcol, Option.join_some]
      have hs : Tracks
          (StreamIs E (m.advance p ⟨stream.schema, stream.batches.drop read⟩).native.streams)
          m.streams (Function.update q.streams x (some (f, read + 1))) := by
        refine h.streams.change hx (fun a b hne hs => hs.mono fun _ hget => ?_) ⟨stream, hcol, ?_⟩
        · exact (Store.get?_put_of_ne hne).trans hget
        · exact (Store.get?_put_self hp).trans (by simp)
      have hout : stream.batches[read]? = (stream.batches.drop read).head? := by simp
      have hnext := h.restream
        (n := (m.advance p ⟨stream.schema, stream.batches.drop read⟩).native) rfl hs
      exact { hnext with outputs := by rw [h.outputs, ← hout]; rfl }

/-! ## frees -/

/-- Dropping a box leaves the others. -/
private theorem get?_unbox {n : Native T} {k : Kind} {p p' : Addr} {o : Obj T} (hne : p' ≠ p)
    (hp : n.boxes.get? p' = some o) : (n.unbox k p).boxes.get? p' = some o :=
  (Store.get?_free_of_ne hne).trans hp

/-- Objects of different kinds are in different boxes. -/
private theorem ne_of_kind {n : Native T} {p p' : Addr} {o o' : Obj T} {k : Kind}
    (hp : n.boxes.get? p = some o) (hp' : n.boxes.get? p' = some o') (hk : o'.kind = k)
    (hne : k ≠ o.kind) : p' ≠ p := by
  rintro rfl
  rw [hp, Option.some.injEq] at hp'
  exact hne (hk ▸ hp' ▸ rfl)

/-- Freeing a session leaves the frames made in it. -/
theorem exec_freeSession (h : Refines E m q) (x : Nat) :
    Refines E (m.exec E (.freeSession x)) (q.exec E (.freeSession x)) := by
  cases hx : m.sessions x with
  | none =>
      have hq : Function.update q.sessions x none = q.sessions := by
        rw [← h.sessions.value_none hx]
        exact Function.update_eq_self x q.sessions
      simp only [Machine.exec, Meaning.exec, hx, hq]
      exact h
  | some p =>
      obtain ⟨s, -, context, -, hp⟩ := h.sessions.value hx
      have hfree : sessionFree p m.native = m.native.unbox .session p := by
        rw [sessionFree, if_neg (by rintro rfl; cases hp)]
      simp only [Machine.exec, Meaning.exec, hx, hfree]
      exact
        { h with
          runtime := fun ha =>
            get?_unbox (ne_of_kind hp (h.runtime ha) rfl (by simp [Obj.kind])) (h.runtime ha)
          sessions := h.sessions.drop hx fun p' _ hne hs =>
            hs.mono fun _ _ hp' => get?_unbox hne hp'
          frames := h.frames.imp fun _ _ _ _ hf => hf.mono fun _ hk hp' =>
            get?_unbox (ne_of_kind hp hp' hk (by simp [Obj.kind])) hp' }

/-- Freeing a frame leaves those made from it. -/
theorem exec_freeFrame (h : Refines E m q) (x : Nat) :
    Refines E (m.exec E (.freeFrame x)) (q.exec E (.freeFrame x)) := by
  cases hx : m.frames x with
  | none =>
      have hq : Function.update q.frames x none = q.frames := by
        rw [← h.frames.value_none hx]
        exact Function.update_eq_self x q.frames
      simp only [Machine.exec, Meaning.exec, hx, hq]
      exact h
  | some p =>
      obtain ⟨f, -, df, -, hp⟩ := h.frames.value hx
      have hfree : dataframeFree p m.native = m.native.unbox .dataframe p := by
        rw [dataframeFree, if_neg (by rintro rfl; cases hp)]
      simp only [Machine.exec, Meaning.exec, hx, hfree]
      exact
        { h with
          runtime := fun ha =>
            get?_unbox (ne_of_kind hp (h.runtime ha) rfl (by simp [Obj.kind])) (h.runtime ha)
          sessions := h.sessions.imp fun _ _ _ _ hs => hs.mono fun _ hk hp' =>
            get?_unbox (ne_of_kind hp hp' hk (by simp [Obj.kind])) hp'
          frames := h.frames.drop hx fun p' _ hne hf =>
            hf.mono fun _ _ hp' => get?_unbox hne hp' }

/-- Freeing the runtime leaves everything else. -/
theorem exec_freeRuntime (h : Refines E m q) :
    Refines E (m.exec E .freeRuntime) (q.exec E .freeRuntime) := by
  cases ha : m.alive with
  | false =>
      simp only [Machine.exec, Meaning.exec, ha, Bool.false_eq_true, if_false]
      exact { h with alive := ha }
  | true =>
      have hp := h.runtime ha
      have hfree : runtimeFree m.runtime m.native = m.native.unbox .runtime m.runtime := by
        rw [runtimeFree, if_neg (by intro h0; rw [h0] at hp; cases hp)]
      simp only [Machine.exec, Meaning.exec, ha, hfree, if_true]
      exact
        { h with
          alive := rfl
          runtime := by simp
          sessions := h.sessions.imp fun _ _ _ _ hs => hs.mono fun _ hk hp' =>
            get?_unbox (ne_of_kind hp hp' hk (by simp [Obj.kind])) hp'
          frames := h.frames.imp fun _ _ _ _ hf => hf.mono fun _ hk hp' =>
            get?_unbox (ne_of_kind hp hp' hk (by simp [Obj.kind])) hp' }

/-! ## whole programs -/

/-- **One statement** keeps the relation. -/
theorem step (h : Refines E m q) (s : Stmt) : Refines E (m.step E s) (q.step E s) := by
  unfold Machine.step Meaning.step
  rw [h.halted, h.alive]
  split
  · exact h
  · next hgo =>
    have ha : s.needsRuntime = true → m.alive = true := fun hs => by
      have hrunning : q.halted = false ∧ q.alive = true := by simpa [hs] using hgo
      rw [h.alive, hrunning.2]
    cases s with
    | newSession x => exact h.exec_newSession (ha rfl) x
    | register format x table => exact h.exec_register (ha rfl) format x table
    | sql x y query => exact h.exec_sql (ha rfl) x y query
    | unary x y op => exact h.exec_unary (ha rfl) x y op
    | binary x y z op => exact h.exec_binary (ha rfl) x y z op
    | count x => exact h.exec_count (ha rfl) x
    | collect x y => exact h.exec_collect (ha rfl) x y
    | schema x => exact h.exec_schema x
    | next x => exact h.exec_next x
    | freeSession x => exact h.exec_freeSession x
    | freeFrame x => exact h.exec_freeFrame x
    | freeRuntime => exact h.exec_freeRuntime

end Refines

/-- A native state with a live runtime in it. -/
structure LiveRuntime (T : Types) where
  native : Native T
  runtime : Addr
  live : native.boxes.get? runtime = some .runtime

/-- A program that has a runtime and nothing else. -/
def Machine.start (r : LiveRuntime T) : Machine T :=
  ⟨r.native, r.runtime, true, fun _ => none, fun _ => none, fun _ => none, [], false⟩

/-- At the start no variable is bound. -/
theorem refines_start (E : Engine T) (r : LiveRuntime T) : Refines E (Machine.start r) .start :=
  ⟨rfl, fun _ => r.live, .empty, .empty, .empty, rfl, rfl⟩

/-- A whole program keeps the relation. -/
theorem refines_run (E : Engine T) (r : LiveRuntime T) (program : List Stmt) :
    Refines E (program.foldl (Machine.step E) (.start r)) (program.foldl (Meaning.step E) .start) :=
  List.foldl_rel (refines_start E r) fun s _ _ _ h => h.step s

/-- **The handle API refines plan expressions.**  Whatever a program shares,
frees and fails at, it sees what it means: every call ends as its expression
evaluates, every count is that of the frame's expression, and every stream
has the schema of its frame's expression and yields its batches in order, as
often as it is asked, whatever has been freed in between. -/
theorem handle_api_refines (E : Engine T) (r : LiveRuntime T) (program : List Stmt) :
    (program.foldl (Machine.step E) (.start r)).outputs =
      (program.foldl (Meaning.step E) .start).outputs :=
  (refines_run E r program).outputs

/-- A runtime alone. -/
private def freshRuntime : LiveRuntime planTypes := ⟨Native.empty.box .runtime, 1, rfl⟩

/-- A text alone in memory, as an argument. -/
private def storedText (t : Text) : StoredText where
  mem := ⟨[some (.bytes ((CString.ofText t).bytes ++ [0]))]⟩
  arg := 1
  strings := CString.ofText t
  stored := ⟨[], rfl⟩

private def storedFilter (t : Text) : StoredUnary where
  mem := (storedText t).mem
  arg := .filter 1
  strings := .filter (CString.ofText t)
  stored := (storedText t).stored

private def storedDistinct : StoredUnary := ⟨.empty, .distinct, .distinct, trivial⟩

private def storedUnion : StoredBinary := ⟨.empty, .union, .union, trivial⟩

/-- One frame goes into three operations, of which the first fails; every
handle is freed as soon as it is not needed, the runtime before the stream is
read. -/
private def sharing : List Stmt :=
  [.newSession 0, .sql 0 0 (storedText "SELECT 1".toList), .freeSession 0,
    .unary 1 0 (storedFilter []), .unary 1 0 storedDistinct, .binary 2 0 1 storedUnion,
    .freeFrame 0, .freeFrame 1, .count 2, .collect 0 2, .freeFrame 2, .freeRuntime,
    .schema 0, .next 0, .next 0]

/-- What both worlds show of it. -/
theorem handle_api_refines_sharing :
    (sharing.foldl (Machine.step planEngine) (.start freshRuntime)).outputs =
      [.called (.ok ()), .called (.ok ()),
        .called (.error (.thrown (.dataFusionException (encodeUtf16 "SQL error: EOF".toList)))),
        .called (.ok ()), .called (.ok ()), .count (.ok 2), .called (.ok ()), .schema (some ()),
        .batch (some 2), .batch none] := by
  rw [handle_api_refines]
  rfl

end DataFusionPanama
