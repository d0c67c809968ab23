import DataFusionPanama.Native.Spec

/-!
# DataFusionPanama.Native.NullPointers

Null pointers at the boundary.  Every exported function asserts that its
pointer arguments are not null before it reads through any of them, and the
loop over a string array asserts it of every element before it reads that
element; all of it happens before anything is boxed, written or changed.

A read through a pointer that points nowhere, null included, yields whatever
the engine's `Dangling` says.  That a call reads through no such pointer is
therefore the statement that it does not depend on it: `Rejected` is about
all of them at once.
-/

namespace DataFusionPanama

variable {T : Types}

/-! ## the pointers of a call -/

namespace UnaryOp

/-- The `*const c_char` arguments. -/
def strings : UnaryOp Addr StrArray → List Addr
  | .filter expr => [expr]
  | .withColumn name expr => [name, expr]
  | .withColumnRenamed oldName newName => [oldName, newName]
  | _ => []

/-- The `*const *const c_char` arguments. -/
def arrays : UnaryOp Addr StrArray → List StrArray
  | .select exprs | .sort exprs => [exprs]
  | .selectColumns cols | .dropColumns cols => [cols]
  | .aggregate groupExprs aggrExprs => [groupExprs, aggrExprs]
  | _ => []

end UnaryOp

def BinaryOp.arrays : BinaryOp Int StrArray → List StrArray
  | .join _ leftCols rightCols => [leftCols, rightCols]
  | _ => []

namespace Downcall

def strings : Downcall → List Addr
  | .sessionSql _ _ sql => [sql]
  | .sessionRegisterCsv _ _ tableName path | .sessionRegisterParquet _ _ tableName path =>
      [tableName, path]
  | .unary op _ _ => op.strings
  | _ => []

def arrays : Downcall → List StrArray
  | .unary op _ _ => op.arrays
  | .binary op _ _ _ => op.arrays
  | _ => []

def streamOuts : Downcall → List Addr
  | .dataframeCollect _ _ streamOut => [streamOut]
  | _ => []

/-- All pointer arguments. -/
def pointers (c : Downcall) : List Addr :=
  c.handles.map Prod.snd ++ c.strings ++ c.arrays.map Prod.fst ++ c.streamOuts

end Downcall

/-! ## reads that have no meaning -/

/-- What reads through pointers that point nowhere yield. -/
structure Dangling (T : Types) where
  runtime : Outcome Unit
  context : Outcome T.Ctx
  frame : Outcome T.Plan
  string : Outcome Text
  pointers : Outcome (List Addr)
  result : Addr × Option CString

def Engine.withDangling (E : Engine T) (d : Dangling T) : Engine T :=
  { E with
    danglingRuntime := d.runtime
    danglingContext := d.context
    danglingFrame := d.frame
    danglingString := d.string
    danglingPointers := d.pointers
    danglingResult := d.result }

/-- The call returns a new error result and does nothing else, whatever a
read through a null or dangling pointer might yield. -/
def Rejected (E : Engine T) (mem : Mem) (n : Native T) (c : Downcall) : Prop :=
  ∃ (r : Addr) (e : CString) (n' : Native T),
    c.invoke E mem n = (.returned r, n') ∧
      (∀ d, c.invoke (E.withDangling d) mem n = (.returned r, n')) ∧
      r ≠ 0 ∧ n'.results.get? r = some ⟨0, some e⟩ ∧
      (∀ q x, n.results.get? q = some x → n'.results.get? q = some x) ∧
      n'.boxes = n.boxes ∧ n'.streams = n.streams ∧ n'.trace = n.trace

/-- The body stops with a fault that can be reported, before it has done
anything and whatever the dangling reads yield. -/
def Stops (E : Engine T) (n : Native T) (body : Engine T → FfiM T Addr) : Prop :=
  ∃ f : Fault, nul ∉ f.text ∧ ∀ d, (body (E.withDangling d)).exec n = (.error f, n)

/-- What the dangling reads of an engine yield. -/
def Engine.dangling (E : Engine T) : Dangling T :=
  ⟨E.danglingRuntime, E.danglingContext, E.danglingFrame, E.danglingString, E.danglingPointers,
    E.danglingResult⟩

/-- A body that stops so is reported so. -/
theorem rejected_of_stops {E : Engine T} {mem : Mem} {n : Native T} {c : Downcall}
    (h : Stops E n (fun E => c.body E mem)) : Rejected E mem n c := by
  obtain ⟨f, hf, hbody⟩ := h
  obtain ⟨e, -, he⟩ := dfResult_error_eq_ok hf
  have hinvoke : ∀ d, c.invoke (E.withDangling d) mem n = _ := fun d =>
    ffiResult_returned (hbody d) he
  exact ⟨_, e, _, hinvoke E.dangling, hinvoke, Store.alloc_ne_null _ _, Store.get?_alloc_self _ _,
    fun q x hq => Store.get?_alloc_of_some hq, rfl, rfl, rfl⟩

/-! ## null arguments -/

section NullArgument

variable {E : Engine T} {mem : Mem} {n : Native T}

/-- The null check of a null pointer. -/
theorem exec_assertNotNull_null {β : Type} {msg : String} {f : Unit → FfiM T β} :
    ((lift (assertNotNull 0 msg) : FfiM T Unit) >>= f).exec n = (.error (.panic msg), n) := rfl

/-- A check that fails stops the body where it stands. -/
theorem stops_of_check {body : Engine T → FfiM T Addr} {msg : String}
    (h : ∀ E : Engine T, (body E).exec n = (.error (.panic msg), n)) : Stops E n body :=
  ⟨.panic msg, nul_notMem_panic msg, fun _ => h _⟩

/-- A check that passes leaves the rest to decide. -/
theorem stops_assertNotNull {p : Addr} {msg : String} {f : Engine T → Unit → FfiM T Addr}
    (h : p ≠ 0 → Stops E n fun E => f E ()) :
    Stops E n fun E => (lift (assertNotNull p msg) : FfiM T Unit) >>= f E := by
  by_cases hp : p = 0
  · subst hp
    exact stops_of_check fun E => exec_assertNotNull_null
  · obtain ⟨fault, hf, hbody⟩ := h hp
    exact ⟨fault, hf, fun d => (exec_assertNotNull hp).trans (hbody d)⟩

/-- The null check panics with its message. -/
theorem assertNotNull_null (msg : String) : assertNotNull 0 msg = throw (.panic msg) := rfl

/-- Two null checks, of which one fails. -/
theorem assertNotNull_two {p q : Addr} (msg msg' : String) (h : p = 0 ∨ q = 0) :
    ∃ m, (do assertNotNull p msg; assertNotNull q msg') = (throw (.panic m) : Outcome Unit) := by
  by_cases hp : p = 0
  · subst hp
    exact ⟨msg, rfl⟩
  · obtain rfl := h.resolve_left hp
    exact ⟨msg', by rw [assertNotNull_of_ne hp]; rfl⟩

/-- A unary function stops at a null handle, or else at its checks. -/
theorem stops_unaryFrame {checks : Outcome Unit} {op : Engine T → T.Plan → Outcome T.Plan}
    {runtime dataframe : Addr}
    (h : runtime ≠ 0 → dataframe ≠ 0 → ∃ msg, checks = throw (.panic msg)) :
    Stops E n fun E => unaryFrame E checks (op E) runtime dataframe :=
  stops_assertNotNull fun hrt => stops_assertNotNull fun hdf => by
    obtain ⟨msg, rfl⟩ := h hrt hdf
    exact stops_of_check fun _ => rfl

/-- A binary function stops at a null handle, or else at its checks. -/
theorem stops_binaryFrame {checks : Outcome Unit}
    {op : Engine T → T.Plan → T.Plan → Outcome T.Plan} {runtime left right : Addr}
    (h : runtime ≠ 0 → left ≠ 0 → right ≠ 0 → ∃ msg, checks = throw (.panic msg)) :
    Stops E n fun E => binaryFrame E checks (op E) runtime left right :=
  stops_assertNotNull fun hrt => stops_assertNotNull fun hl => stops_assertNotNull fun hr => by
    obtain ⟨msg, rfl⟩ := h hrt hl hr
    exact stops_of_check fun _ => rfl

/-- The checks of a unary function cover its own pointer arguments. -/
theorem stops_unaryOp {op : UnaryOp Addr StrArray} {runtime dataframe : Addr}
    (h : 0 ∈ (Downcall.unary op runtime dataframe).pointers) :
    Stops E n fun E => op.body E mem runtime dataframe := by
  have hown : runtime ≠ 0 → dataframe ≠ 0 → 0 ∈ op.strings ++ op.arrays.map Prod.fst := by
    intro hrt hdf
    simpa [Downcall.pointers, Downcall.handles, Downcall.strings, Downcall.arrays,
      Downcall.streamOuts, hrt.symm, hdf.symm] using h
  cases op with
  | filter expr =>
      refine stops_unaryFrame fun hrt hdf => ?_
      obtain rfl : 0 = expr := by simpa [UnaryOp.strings, UnaryOp.arrays] using hown hrt hdf
      exact ⟨_, assertNotNull_null _⟩
  | select a | sort a | selectColumns a | dropColumns a =>
      obtain ⟨p, len⟩ := a
      refine stops_unaryFrame fun hrt hdf => ?_
      obtain rfl : 0 = p := by simpa [UnaryOp.strings, UnaryOp.arrays] using hown hrt hdf
      exact ⟨_, assertNotNull_null _⟩
  | aggregate a b =>
      obtain ⟨p, len⟩ := a
      obtain ⟨q, len'⟩ := b
      refine stops_unaryFrame fun hrt hdf => assertNotNull_two _ _ ?_
      simpa [UnaryOp.strings, UnaryOp.arrays, eq_comm] using hown hrt hdf
  | withColumn p q | withColumnRenamed p q =>
      refine stops_unaryFrame fun hrt hdf => assertNotNull_two _ _ ?_
      simpa [UnaryOp.strings, UnaryOp.arrays, eq_comm] using hown hrt hdf
  | limit | distinct | explain =>
      refine stops_unaryFrame fun hrt hdf => ?_
      simpa [UnaryOp.strings, UnaryOp.arrays] using hown hrt hdf

/-- The checks of a binary function cover its own pointer arguments. -/
theorem stops_binaryOp {op : BinaryOp Int StrArray} {runtime left right : Addr}
    (h : 0 ∈ (Downcall.binary op runtime left right).pointers) :
    Stops E n fun E => op.body E mem runtime left right := by
  have hown : runtime ≠ 0 → left ≠ 0 → right ≠ 0 → 0 ∈ op.arrays.map Prod.fst := by
    intro hrt hl hr
    simpa [Downcall.pointers, Downcall.handles, Downcall.strings, Downcall.arrays,
      Downcall.streamOuts, hrt.symm, hl.symm, hr.symm] using h
  cases op with
  | join joinType a b =>
      obtain ⟨p, len⟩ := a
      obtain ⟨q, len'⟩ := b
      refine stops_binaryFrame fun hrt hl hr => assertNotNull_two _ _ ?_
      simpa [BinaryOp.arrays, eq_comm] using hown hrt hl hr
  | union | unionDistinct | except | intersect =>
      refine stops_binaryFrame fun hrt hl hr => ?_
      simpa [BinaryOp.arrays] using hown hrt hl hr

/-- A registration checks all its four pointers. -/
theorem stops_registerTable {register : Engine T → T.Ctx → Text → Text → Outcome Unit × T.Ctx}
    {runtime session tableName path : Addr} (h : 0 ∈ [runtime, session, tableName, path]) :
    Stops E n fun E => registerTable E mem (register E) runtime session tableName path :=
  stops_assertNotNull fun hrt => stops_assertNotNull fun hs => stops_assertNotNull fun hn =>
    stops_assertNotNull fun hp => by simp [hrt.symm, hs.symm, hn.symm, hp.symm] at h

/-- **A null argument is rejected** by every exported function, whatever the
other arguments are. -/
theorem stops_of_null_argument {c : Downcall} (h : 0 ∈ c.pointers) :
    Stops E n fun E => c.body E mem := by
  cases c with
  | runtimeNew => exact absurd h List.not_mem_nil
  | sessionNew rt =>
      have hmem : 0 ∈ [rt] := h
      exact stops_assertNotNull fun hrt => by simp [hrt.symm] at hmem
  | sessionSql rt sess sql =>
      have hmem : 0 ∈ [rt, sess, sql] := h
      exact stops_assertNotNull fun hrt => stops_assertNotNull fun hs =>
        stops_assertNotNull fun hq => by simp [hrt.symm, hs.symm, hq.symm] at hmem
  | sessionRegisterCsv rt sess name path | sessionRegisterParquet rt sess name path =>
      exact stops_registerTable h
  | dataframeCollect rt df out =>
      have hmem : 0 ∈ [rt, df, out] := h
      exact stops_assertNotNull fun hrt => stops_assertNotNull fun hd =>
        stops_assertNotNull fun ho => by simp [hrt.symm, hd.symm, ho.symm] at hmem
  | dataframeCount rt df =>
      have hmem : 0 ∈ [rt, df] := h
      exact stops_assertNotNull fun hrt => stops_assertNotNull fun hd => by
        simp [hrt.symm, hd.symm] at hmem
  | unary op rt df => exact stops_unaryOp h
  | binary op rt left right => exact stops_binaryOp h

end NullArgument

/-! ## null elements -/

/-- The elements of an array: as many as its length says.  Nothing need lie
behind the pointer of an empty one, as long as it is not null. -/
def Elements (mem : Mem) (a : StrArray) (ps : List Addr) : Prop :=
  a.1 ≠ 0 ∧ ps.length = a.2 ∧
    (a.2 = 0 ∨ ∃ qs, mem.get? a.1 = some (.pointers qs) ∧ ps <+: qs)

/-- The elements are what the slice holds. -/
theorem fromRawParts_eq {E : Engine T} {mem : Mem} {a : StrArray} {ps : List Addr}
    (h : Elements mem a ps) : fromRawParts E mem a.1 a.2 = pure ps := by
  obtain ⟨-, hlen, h0 | ⟨qs, hget, hpre⟩⟩ := h
  · rw [h0] at hlen
    rw [fromRawParts, if_pos h0, List.eq_nil_of_length_eq_zero hlen]
  · by_cases h0 : a.2 = 0
    · rw [h0] at hlen
      rw [fromRawParts, if_pos h0, List.eq_nil_of_length_eq_zero hlen]
    · have hle : a.2 ≤ qs.length := hlen ▸ hpre.length_le
      have htake : qs.take a.2 = ps := by rw [← hlen]; exact (List.prefix_iff_eq_take.mp hpre).symm
      rw [fromRawParts, if_neg h0, hget]
      simp only [hle, if_true, htake]

/-- Every element is null or a C string. -/
def Readable (mem : Mem) (a : StrArray) : Prop :=
  ∃ ps, Elements mem a ps ∧ ∀ p ∈ ps, p = 0 ∨ ∃ s, CStrAt mem p s

/-- Some element of some array of the call is null. -/
def NullElement (mem : Mem) (arrays : List StrArray) : Prop :=
  ∃ a ∈ arrays, ∃ ps, Elements mem a ps ∧ 0 ∈ ps

/-- What the callers promise: the handles are live, and the arrays have the
elements they are said to have, C strings unless they are null. -/
structure Downcall.Valid (mem : Mem) (n : Native T) (c : Downcall) : Prop where
  handles : ∀ h ∈ c.handles, n.kind? h.2 = some h.1
  arrays : ∀ a ∈ c.arrays, Readable mem a

/-- The error texts of `str::from_utf8` do not quote the input. -/
def Utf8Errors (E : Engine T) : Prop := ∀ bs, nul ∉ E.utf8Error bs

/-- An outcome the dangling reads have no part in, whose fault is reportable. -/
structure Fixed {α : Type} (E : Engine T) (o : Engine T → Outcome α) : Prop where
  eq : ∀ d, o (E.withDangling d) = o E
  reportable : ∀ f, o E = .error f → nul ∉ f.text

section Fixed

variable {E : Engine T} {mem : Mem} {α β : Type}

theorem Fixed.pure (a : α) : Fixed E fun _ => (Pure.pure a : Outcome α) :=
  ⟨fun _ => rfl, fun _ hf => by cases hf⟩

/-- One fixed outcome after another. -/
theorem Fixed.bind {o : Engine T → Outcome α} {g : Engine T → α → Outcome β} (ho : Fixed E o)
    (hg : ∀ a, Fixed E fun E => g E a) : Fixed E fun E => o E >>= g E where
  eq d := by
    rw [ho.eq d]
    cases o E with
    | error f => rfl
    | ok a => exact (hg a).eq d
  reportable f hf := by
    cases he : o E with
    | error f' =>
        rw [he] at hf
        cases hf
        exact ho.reportable _ he
    | ok a =>
        rw [he] at hf
        exact (hg a).reportable f hf

/-- Fixed outcomes in a row. -/
theorem Fixed.mapM {l : List α} {g : Engine T → α → Outcome β}
    (hg : ∀ a ∈ l, Fixed E fun E => g E a) : Fixed E fun E => l.mapM (g E) := by
  induction l with
  | nil => exact .pure []
  | cons a l ih =>
      have hcons : (fun E : Engine T => (a :: l).mapM (g E)) = fun E =>
          g E a >>= fun b => l.mapM (g E) >>= fun bs => Pure.pure (b :: bs) := by
        funext E
        rw [List.mapM_cons]
      rw [hcons]
      exact (hg a List.mem_cons_self).bind fun b =>
        (ih fun a' h => hg a' (List.mem_cons_of_mem a h)).bind fun bs => .pure (b :: bs)

/-- A null check is fixed: its message has no NUL. -/
theorem fixed_assertNotNull (p : Addr) (msg : String) :
    Fixed E fun _ => assertNotNull p msg := by
  refine ⟨fun _ => rfl, fun f hf => ?_⟩
  by_cases hp : p = 0
  · subst hp
    cases hf
    exact nul_notMem_panic msg
  · rw [assertNotNull_of_ne hp] at hf
    cases hf

/-- Two null checks are fixed. -/
theorem fixed_two_checks (p q : Addr) (msg msg' : String) :
    Fixed E fun _ => assertNotNull p msg >>= fun _ => assertNotNull q msg' :=
  (fixed_assertNotNull p msg).bind fun _ => fixed_assertNotNull q msg'

/-- A number is written with digits and a sign. -/
theorem nul_notMem_toString (v : Int) : nul ∉ (toString v).toList := by
  have hdigits : ∀ k, nul ∉ Nat.toDigits 10 k := fun k hm => by
    have hdigit := Nat.isDigit_of_mem_toDigits (by decide) (by decide) hm
    exact absurd hdigit (by decide)
  rw [Int.toString_eq_repr, Int.repr_eq_if]
  split
  · rw [Nat.toList_repr]
    exact hdigits _
  · rw [String.toList_append, Nat.toList_repr]
    exact fun hm => (List.mem_append.mp hm).elim (by decide) (hdigits _)

/-- The join type is fixed: the message quotes a number. -/
theorem fixed_joinTypeFromInt (v : Int) : Fixed E fun _ => joinTypeFromInt v := by
  refine ⟨fun _ => rfl, fun f hf => ?_⟩
  unfold joinTypeFromInt at hf
  split at hf
  case h_9 =>
    cases hf
    show nul ∉ ("invalid join type: " ++ toString v).toList
    rw [String.toList_append]
    exact fun hm => (List.mem_append.mp hm).elim (by decide) (nul_notMem_toString v)
  all_goals cases hf

/-- What is read of a stored string is fixed. -/
theorem fixed_cStr (hE : Utf8Errors E) {p : Addr} {s : CString} (h : CStrAt mem p s) :
    Fixed E fun E => cStr E mem p where
  eq d := by rw [cStr_eq h, cStr_eq h]; rfl
  reportable f hf := by
    rw [cStr_eq h, CString.toStr] at hf
    cases hs : fromUtf8 s.bytes with
    | some t => rw [hs] at hf; cases hf
    | none =>
        rw [hs] at hf
        cases hf
        exact hE s.bytes

/-- One round of the loop of `parse_c_str_array`. -/
def element (E : Engine T) (mem : Mem) (p : Addr) : Outcome Text := do
  assertNotNull p "string array element must not be null"
  cStr E mem p

/-- An array is decoded element by element. -/
theorem parseCStrArray_elements {a : StrArray} {ps : List Addr} (h : Elements mem a ps)
    (E : Engine T) : parseCStrArray E mem a.1 a.2 = ps.mapM (element E mem) := by
  rw [parseCStrArray, fromRawParts_eq h, pure_bind]
  rfl

/-- What one round of the loop yields is fixed. -/
theorem fixed_element (hE : Utf8Errors E) {p : Addr} (h : p = 0 ∨ ∃ s, CStrAt mem p s) :
    Fixed E fun E => element E mem p := by
  rcases h with rfl | ⟨s, hs⟩
  · exact ⟨fun _ => rfl, fun f hf => by cases hf; exact nul_notMem_panic _⟩
  · exact (fixed_assertNotNull p _).bind fun _ => fixed_cStr hE hs

/-- What is read from an array depends on its elements only. -/
theorem fixed_parseCStrArray (hE : Utf8Errors E) {a : StrArray} (h : Readable mem a) :
    Fixed E fun E => parseCStrArray E mem a.1 a.2 := by
  obtain ⟨ps, hps, hall⟩ := h
  simp only [parseCStrArray_elements hps]
  exact .mapM fun p hp => fixed_element hE (hall p hp)

/-- A fault anywhere in a list is a fault of the whole. -/
theorem mapM_error_of_mem {f : α → Outcome β} {l : List α} {a : α} {e : Fault} (ha : a ∈ l)
    (he : f a = .error e) : ∃ e', l.mapM f = .error e' := by
  induction l with
  | nil => cases ha
  | cons b l ih =>
      rw [List.mapM_cons]
      cases hb : f b with
      | error e' => exact ⟨e', rfl⟩
      | ok c =>
          have hmem : a ∈ l := (List.mem_cons.mp ha).resolve_left fun hab => by
            rw [hab, hb] at he
            cases he
          obtain ⟨e', he'⟩ := ih hmem
          exact ⟨e', by rw [he']; rfl⟩

end Fixed

/-- An outcome that is a reportable fault, whatever the dangling reads
yield. -/
def Fails {α : Type} (E : Engine T) (o : Engine T → Outcome α) : Prop :=
  ∃ f : Fault, nul ∉ f.text ∧ ∀ d, o (E.withDangling d) = .error f

section Fails

variable {E : Engine T} {mem : Mem} {n : Native T} {α β : Type}

/-- A fixed outcome that is a fault is a fault whatever the reads yield. -/
theorem Fixed.fails {o : Engine T → Outcome α} (h : Fixed E o) (he : ∃ f, o E = .error f) :
    Fails E o := by
  obtain ⟨f, hf⟩ := he
  exact ⟨f, h.reportable f hf, fun d => (h.eq d).trans hf⟩

/-- Nothing comes after a fault. -/
theorem Fails.bind {o : Engine T → Outcome α} (h : Fails E o) (g : Engine T → α → Outcome β) :
    Fails E fun E => o E >>= g E := by
  obtain ⟨f, hf, ho⟩ := h
  exact ⟨f, hf, fun d => congrArg (· >>= g (E.withDangling d)) (ho d)⟩

/-- A fault after a fixed outcome. -/
theorem Fixed.bind_fails {o : Engine T → Outcome α} {g : Engine T → α → Outcome β}
    (ho : Fixed E o) (hg : ∀ a, Fails E fun E => g E a) : Fails E fun E => o E >>= g E := by
  cases he : o E with
  | error f => exact (ho.fails ⟨f, he⟩).bind g
  | ok a =>
      obtain ⟨f, hf, hga⟩ := hg a
      have hoa : ∀ d, o (E.withDangling d) = .ok a := fun d => (ho.eq d).trans he
      exact ⟨f, hf, fun d => (congrArg (· >>= g (E.withDangling d)) (hoa d)).trans (hga d)⟩

/-- **A null element is found**, wherever it stands. -/
theorem fails_parseCStrArray (hE : Utf8Errors E) {a : StrArray} (ha : Readable mem a)
    {ps : List Addr} (h : Elements mem a ps) (h0 : 0 ∈ ps) :
    Fails E fun E => parseCStrArray E mem a.1 a.2 := by
  refine (fixed_parseCStrArray hE ha).fails ?_
  rw [parseCStrArray_elements h]
  exact mapM_error_of_mem h0 (e := .panic "string array element must not be null") rfl

/-- Two arrays, one of which has a null element. -/
theorem fails_two_arrays (hE : Utf8Errors E) {a b : StrArray} (ha : Readable mem a)
    (hb : Readable mem b) (h : NullElement mem [a, b])
    (g : Engine T → List Text → List Text → Outcome β) :
    Fails E fun E => parseCStrArray E mem a.1 a.2 >>= fun as =>
      parseCStrArray E mem b.1 b.2 >>= fun bs => g E as bs := by
  obtain ⟨c, hc, ps, hps, h0⟩ := h
  rcases List.mem_pair.mp hc with rfl | rfl
  · exact (fails_parseCStrArray hE ha hps h0).bind _
  · exact (fixed_parseCStrArray hE ha).bind_fails fun as =>
      (fails_parseCStrArray hE hb hps h0).bind _

/-! ## null elements in a call -/

/-- The kind of an address is that of the object in its box. -/
theorem kind?_eq_some {p : Addr} {k : Kind} :
    n.kind? p = some k ↔ ∃ o, n.boxes.get? p = some o ∧ o.kind = k :=
  Option.map_eq_some_iff

/-- A live runtime pointer has a runtime behind it. -/
theorem runtime_of_kind? {p : Addr} (h : n.kind? p = some .runtime) :
    n.boxes.get? p = some .runtime := by
  obtain ⟨o, ho, hk⟩ := kind?_eq_some.mp h
  cases o with
  | runtime => exact ho
  | session _ | dataframe _ => cases hk

/-- A live frame pointer has a frame behind it. -/
theorem dataframe_of_kind? {p : Addr} (h : n.kind? p = some .dataframe) :
    ∃ df, n.boxes.get? p = some (.dataframe df) := by
  obtain ⟨o, ho, hk⟩ := kind?_eq_some.mp h
  cases o with
  | dataframe df => exact ⟨df, ho⟩
  | runtime | session _ => cases hk

/-- A unary function on live handles stops where its checks or its operation
do. -/
theorem stops_unaryFrame_of_fails {checks : Outcome Unit} {op : Engine T → T.Plan → Outcome T.Plan}
    {runtime dataframe : Addr} {df : T.Plan} (hrt : n.boxes.get? runtime = some .runtime)
    (hdf : n.boxes.get? dataframe = some (.dataframe df))
    (h : Fails E fun E => checks >>= fun _ => op E df) :
    Stops E n fun E => unaryFrame E checks (op E) runtime dataframe := by
  obtain ⟨f, hf, ho⟩ := h
  refine ⟨f, hf, fun d => ?_⟩
  have hfails : (checks >>= fun _ => op (E.withDangling d) df) = .error f := ho d
  refine (exec_unaryFrame hrt hdf).trans ?_
  rw [hfails, makeFrame, exec_makeObj_error]

/-- A binary function on live handles stops where its checks or its operation
do. -/
theorem stops_binaryFrame_of_fails {checks : Outcome Unit}
    {op : Engine T → T.Plan → T.Plan → Outcome T.Plan} {runtime left right : Addr}
    {leftDf rightDf : T.Plan} (hrt : n.boxes.get? runtime = some .runtime)
    (hl : n.boxes.get? left = some (.dataframe leftDf))
    (hr : n.boxes.get? right = some (.dataframe rightDf))
    (h : Fails E fun E => checks >>= fun _ => op E leftDf rightDf) :
    Stops E n fun E => binaryFrame E checks (op E) runtime left right := by
  obtain ⟨f, hf, ho⟩ := h
  refine ⟨f, hf, fun d => ?_⟩
  have hfails : (checks >>= fun _ => op (E.withDangling d) leftDf rightDf) = .error f := ho d
  refine (exec_binaryFrame hrt hl hr).trans ?_
  rw [hfails, makeFrame, exec_makeObj_error]

/-- The one array of a unary function has a null element. -/
theorem fails_one_array (hE : Utf8Errors E) {a : StrArray} (ha : Readable mem a)
    (h : NullElement mem [a]) (msg : String) (g : Engine T → List Text → Outcome β) :
    Fails E fun E => assertNotNull a.1 msg >>= fun _ =>
      parseCStrArray E mem a.1 a.2 >>= g E := by
  obtain ⟨c, hc, ps, hps, h0⟩ := h
  obtain rfl := List.mem_singleton.mp hc
  exact (fixed_assertNotNull c.1 msg).bind_fails fun _ =>
    (fails_parseCStrArray hE ha hps h0).bind g

/-- A unary function stops at a null element of an array of its. -/
theorem stops_unaryOp_of_element (hE : Utf8Errors E) {op : UnaryOp Addr StrArray}
    {runtime dataframe : Addr} (hv : (Downcall.unary op runtime dataframe).Valid mem n)
    (h : NullElement mem op.arrays) : Stops E n fun E => op.body E mem runtime dataframe := by
  have hrt := runtime_of_kind? (hv.handles (.runtime, runtime) (by simp [Downcall.handles]))
  obtain ⟨df, hdf⟩ := dataframe_of_kind?
    (hv.handles (.dataframe, dataframe) (by simp [Downcall.handles]))
  have hread : ∀ a ∈ op.arrays, Readable mem a := hv.arrays
  cases op with
  | filter _ | limit _ _ | distinct | withColumn _ _ | withColumnRenamed _ _ | explain _ _ =>
      obtain ⟨a, ha, -⟩ := h
      cases ha
  | select a | sort a | selectColumns a | dropColumns a =>
      exact stops_unaryFrame_of_fails hrt hdf
        (fails_one_array hE (hread a List.mem_cons_self) h _ _)
  | aggregate a b =>
      exact stops_unaryFrame_of_fails hrt hdf ((fixed_two_checks a.1 b.1 _ _).bind_fails fun _ =>
        fails_two_arrays hE (hread a List.mem_cons_self) (hread b (by simp [UnaryOp.arrays])) h _)

/-- So does a binary function. -/
theorem stops_binaryOp_of_element (hE : Utf8Errors E) {op : BinaryOp Int StrArray}
    {runtime left right : Addr} (hv : (Downcall.binary op runtime left right).Valid mem n)
    (h : NullElement mem op.arrays) : Stops E n fun E => op.body E mem runtime left right := by
  have hrt := runtime_of_kind? (hv.handles (.runtime, runtime) (by simp [Downcall.handles]))
  obtain ⟨leftDf, hl⟩ := dataframe_of_kind?
    (hv.handles (.dataframe, left) (by simp [Downcall.handles]))
  obtain ⟨rightDf, hr⟩ := dataframe_of_kind?
    (hv.handles (.dataframe, right) (by simp [Downcall.handles]))
  have hread : ∀ a ∈ op.arrays, Readable mem a := hv.arrays
  cases op with
  | join joinType a b =>
      exact stops_binaryFrame_of_fails hrt hl hr ((fixed_two_checks a.1 b.1 _ _).bind_fails fun _ =>
        (fixed_joinTypeFromInt joinType).bind_fails fun _ =>
          fails_two_arrays hE (hread a List.mem_cons_self) (hread b (by simp [BinaryOp.arrays]))
            h _)
  | union | unionDistinct | except | intersect =>
      obtain ⟨a, ha, -⟩ := h
      cases ha

/-- **A null element is rejected** by every function that takes an array,
before the engine is asked for anything. -/
theorem stops_of_null_element (hE : Utf8Errors E) {c : Downcall} (hv : c.Valid mem n)
    (h : NullElement mem c.arrays) : Stops E n fun E => c.body E mem := by
  cases c with
  | unary op rt df => exact stops_unaryOp_of_element hE hv h
  | binary op rt left right => exact stops_binaryOp_of_element hE hv h
  | runtimeNew | sessionNew _ | sessionSql _ _ _ | sessionRegisterCsv _ _ _ _
  | sessionRegisterParquet _ _ _ _ | dataframeCollect _ _ _ | dataframeCount _ _ =>
      obtain ⟨a, ha, -⟩ := h
      cases ha

end Fails

/-! ## empty arrays -/

/-- The strings an array stands for: none when its length is zero, whatever
its pointer is, as long as it is not null. -/
def StringsAt (mem : Mem) (a : StrArray) (ss : List CString) : Prop :=
  a.1 ≠ 0 ∧ (a.2 = 0 ∧ ss = [] ∨ CStrArrayAt mem a ss)

/-- An array is decoded to its strings, and one of length zero to none. -/
theorem parseCStrArray_strings {E : Engine T} {mem : Mem} {a : StrArray} {ss : List CString}
    (h : StringsAt mem a ss) : parseCStrArray E mem a.1 a.2 = ss.mapM (CString.toStr E) := by
  obtain ⟨-, ⟨h0, rfl⟩ | harr⟩ := h
  · rw [parseCStrArray, fromRawParts, if_pos h0]
    rfl
  · exact parseCStrArray_eq harr

/-- **Pointers are checked before they are used.**  A call with a null
argument is rejected, and so is a call with a null element in one of its
arrays; a call without either, empty arrays among its arguments or not,
computes its function of the strings they stand for. -/
theorem null_pointers_rejected (E : Engine T) (hE : Utf8Errors E) (mem : Mem) (n : Native T) :
    (∀ c : Downcall, 0 ∈ c.pointers → Rejected E mem n c) ∧
    (∀ c : Downcall, c.Valid mem n → NullElement mem c.arrays → Rejected E mem n c) ∧
    (∀ op op' runtime dataframe df, n.boxes.get? runtime = some .runtime →
      n.boxes.get? dataframe = some (.dataframe df) →
      UnaryOp.Rel (CStrAt mem) (StringsAt mem) op op' →
      (Downcall.unary op runtime dataframe).invoke E mem n =
        ffiResult (makeFrame (op'.eval E df)) n) ∧
    ∀ op op' runtime left right leftDf rightDf, n.boxes.get? runtime = some .runtime →
      n.boxes.get? left = some (.dataframe leftDf) →
      n.boxes.get? right = some (.dataframe rightDf) →
      BinaryOp.Rel (StringsAt mem) op op' →
      (Downcall.binary op runtime left right).invoke E mem n =
        ffiResult (makeFrame (op'.eval E leftDf rightDf)) n := by
  have hstrings : ∀ a ss, StringsAt mem a ss →
      a.1 ≠ 0 ∧ parseCStrArray E mem a.1 a.2 = ss.mapM (CString.toStr E) :=
    fun a ss ha => ⟨ha.1, parseCStrArray_strings ha⟩
  refine ⟨fun c h => rejected_of_stops (stops_of_null_argument h),
    fun c hv h => rejected_of_stops (stops_of_null_element hE hv h), ?_, ?_⟩
  · intro op op' runtime dataframe df hrt hdf hop
    have hexec := exec_unaryOp_of_rel hrt hdf
      (fun p s hp => ⟨hp.ne_null, cStr_eq hp⟩) hstrings hop
    simp only [Downcall.invoke, Downcall.body, ffiResult, hexec]
  · intro op op' runtime left right leftDf rightDf hrt hl hr hop
    have hexec := exec_binaryOp_of_rel hrt hl hr hstrings hop
    simp only [Downcall.invoke, Downcall.body, ffiResult, hexec]

/-- `select` on a null pointer, on an array whose second element is null, and
on no expressions at all; `join` on no columns of the left frame. -/
theorem null_pointers_rejected_select :
    let n : Native planTypes :=
      ⟨⟨[some .runtime, some (.dataframe (.query "SELECT 1".toList))]⟩, .empty, .empty, [], [], []⟩
    let mem : Mem := ⟨[some (.bytes (utf8 "a".toList ++ [0])), some (.pointers [1, 0])]⟩
    Rejected planEngine mem n (.unary (.select (0, 2)) 1 2) ∧
    Rejected planEngine mem n (.unary (.select (2, 2)) 1 2) ∧
    (Downcall.unary (.select (9, 0)) 1 2).invoke planEngine mem n =
      ffiResult (makeFrame (T := planTypes)
        (pure (LogicalPlan.projection (.query "SELECT 1".toList) []))) n ∧
    (Downcall.binary (.join 0 (9, 0) (9, 0)) 1 2 2).invoke planEngine mem n =
      ffiResult (makeFrame (T := planTypes) (pure (LogicalPlan.join
        (.query "SELECT 1".toList) (.query "SELECT 1".toList) .inner [] []))) n := by
  intro n mem
  have hstring : CStrAt mem 1 (CString.ofText "a".toList) := ⟨[], by decide⟩
  have helements : Elements mem (2, 2) [1, 0] :=
    ⟨by decide, rfl, .inr ⟨[1, 0], rfl, List.prefix_rfl⟩⟩
  have hvalid : (Downcall.unary (.select (2, 2)) 1 2).Valid mem n := by
    refine ⟨by decide, fun a ha => ?_⟩
    rw [List.mem_singleton.mp ha]
    refine ⟨[1, 0], helements, fun p hp => ?_⟩
    rcases List.mem_pair.mp hp with rfl | rfl
    · exact .inr ⟨_, hstring⟩
    · exact .inl rfl
  have hempty : StringsAt mem (9, 0) [] := ⟨by decide, .inl ⟨rfl, rfl⟩⟩
  have hutf8 : Utf8Errors planEngine := fun _ => by
    show nul ∉ "invalid utf-8 sequence".toList
    decide
  obtain ⟨hargument, helement, hunary, hbinary⟩ := null_pointers_rejected planEngine hutf8 mem n
  refine ⟨hargument _ (by decide), helement _ hvalid ⟨(2, 2), by decide, _, helements, by decide⟩,
    ?_, ?_⟩
  · exact hunary (.select (9, 0)) (.select []) 1 2 _ rfl rfl hempty
  · exact hbinary (.join 0 (9, 0) (9, 0)) (.join 0 [] []) 1 2 2 _ _ rfl rfl rfl
      ⟨rfl, hempty, hempty⟩

end DataFusionPanama
