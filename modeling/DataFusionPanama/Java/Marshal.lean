import DataFusionPanama.Java.Jvm
import DataFusionPanama.Native.Spec

/-!
# DataFusionPanama.Java.Marshal

String arguments from Java to Rust.  `Yields` is the specification of an
arena computation: when it succeeds, what holds of its result then and in
every larger arena.  `marshal_yields` puts the allocations of all methods
into one statement: they succeed unless an argument is null, and behind
every address there is then the C string of the Java string at its place.

What such a C string still has of the Java string is `JString.arrived`: the
characters in front of the first U+0000, with unpaired surrogates replaced.
-/

namespace DataFusionPanama

variable {T : Types} {α β : Type}

/-! ## arena computations -/

/-- The computation succeeds exactly when `ok`; nothing stored is lost, and
the result satisfies `post`. -/
def Yields (x : ArenaM α) (ok : Prop) (post : Mem → α → Prop) : Prop :=
  ∀ mem, match x.exec mem with
    | (.ok a, mem') => ok ∧ Mem.Ext mem mem' ∧ post mem' a
    | (.error _, _) => ¬ ok

/-- A postcondition that survives later allocations. -/
def Stable (post : Mem → α → Prop) : Prop :=
  ∀ mem mem' a, Mem.Ext mem mem' → post mem a → post mem' a

/-- A value by itself. -/
theorem Yields.pure {post : Mem → α → Prop} (a : α) (h : ∀ mem, post mem a) :
    Yields (Pure.pure a) True post := fun mem => ⟨trivial, .refl mem, h mem⟩

/-- The same condition, and a weaker result. -/
theorem Yields.imp {x : ArenaM α} {ok ok' : Prop} {post post' : Mem → α → Prop}
    (h : Yields x ok post) (hok : ok ↔ ok') (hpost : ∀ mem a, post mem a → post' mem a) :
    Yields x ok' post' := by
  intro mem
  have hm := h mem
  rcases hx : x.exec mem with ⟨e | a, mem'⟩ <;> rw [hx] at hm
  · exact fun hk => hm (hok.mpr hk)
  · exact ⟨hok.mp hm.1, hm.2.1, hpost mem' a hm.2.2⟩

/-- One allocation after another. -/
theorem Yields.bind {x : ArenaM α} {f : α → ArenaM β} {ok ok' : Prop} {post : Mem → α → Prop}
    {Q : α → Mem → β → Prop} (hx : Yields x ok post) (hs : Stable post)
    (hf : ∀ a, Yields (f a) ok' (Q a)) :
    Yields (x >>= f) (ok ∧ ok') fun mem b => ∃ a, post mem a ∧ Q a mem b := by
  intro mem
  have hm := hx mem
  rcases hrun : x.exec mem with ⟨e | a, mem₁⟩ <;> rw [hrun] at hm
  · rw [Prog.exec_bind_error hrun]
    exact fun hk => hm hk.1
  · have hm₁ := hf a mem₁
    rw [Prog.exec_bind_ok hrun]
    rcases hrun₁ : (f a).exec mem₁ with ⟨e | b, mem₂⟩ <;> rw [hrun₁] at hm₁
    · exact fun hk => hm₁ hk.2
    · exact ⟨⟨hm.1, hm₁.1⟩, hm.2.1.trans hm₁.2.1, a, hs _ _ a hm₁.2.1 hm.2.2, hm₁.2.2⟩

/-! ## one string -/

/-- What of a string arrives on the Rust side. -/
def JString.arrived (s : JString) : Text := beforeNul (JString.text s)

/-- The C string of a Java string. -/
def JString.cString (s : JString) : CString := .ofText (JString.text s)

/-- The C string of a string argument is stored at the address. -/
def ArgAt (mem : Mem) (p : Addr) (arg : JArg) : Prop :=
  ∃ s, arg = some s ∧ CStrAt mem p (JString.cString s)

/-- The C strings of an array argument are stored behind an array. -/
def ArgsAt (mem : Mem) (a : StrArray) (args : JArgs) : Prop :=
  ∃ ss : List JString, args = some (ss.map some) ∧ CStrArrayAt mem a (ss.map JString.cString)

/-- A string argument stays where it is. -/
theorem stable_argAt (arg : JArg) : Stable fun mem p => ArgAt mem p arg :=
  fun _ _ _ he ⟨s, hs, hp⟩ => ⟨s, hs, hp.ext he⟩

/-- So does an array argument. -/
theorem stable_argsAt (args : JArgs) : Stable fun mem a => ArgsAt mem a args :=
  fun _ _ _ he ⟨ss, hss, hp⟩ => ⟨ss, hss, hp.ext he⟩

/-- A string argument is given. -/
def JArg.Given (arg : JArg) : Prop := ∃ s, arg = some s

/-- An array argument is given, and so are its elements. -/
def JArgs.Given (args : JArgs) : Prop := ∃ ss : List JString, args = some (ss.map some)

/-- A new segment with a terminated text holds its C string. -/
theorem cStrAt_alloc (mem : Mem) (t : Text) :
    CStrAt (mem.alloc (.bytes (utf8 t ++ [0]))).2 (mem.alloc (.bytes (utf8 t ++ [0]))).1
      (.ofText t) := by
  obtain ⟨rest, hrest⟩ := utf8_terminated t
  exact ⟨rest, by rw [Store.get?_alloc_self, hrest]; rfl⟩

/-- A string that is not null is stored. -/
theorem allocateFrom_yields (arg : JArg) :
    Yields (allocateFrom arg) (JArg.Given arg) fun mem p => ArgAt mem p arg := by
  intro mem
  cases arg with
  | none => rintro ⟨s, hs⟩; contradiction
  | some s => exact ⟨⟨s, rfl⟩, Mem.ext_alloc mem _, s, rfl, cStrAt_alloc mem (JString.text s)⟩

/-! ## an array of strings -/

/-- Nothing stored is lost, except perhaps at one address. -/
def Mem.ExtBut (array : Addr) (mem mem' : Mem) : Prop :=
  ∀ p x, p ≠ array → mem.get? p = some x → mem'.get? p = some x

/-- The loop of `allocateStringArray`: with `i` pointers filled in, it fills
in the rest. -/
theorem exec_fillStringArray (array : Addr) (ss : List JString) (mem : Mem) (done todo : List Addr)
    (harray : mem.get? array = some (.pointers (done ++ todo))) (hlen : todo.length = ss.length) :
    ∃ mem' ps, (fillStringArray array done.length (ss.map some)).exec mem = (.ok (), mem') ∧
      mem'.get? array = some (.pointers (done ++ ps)) ∧ Mem.ExtBut array mem mem' ∧
      List.Forall₂ (CStrAt mem') ps (ss.map JString.cString) := by
  induction ss generalizing mem done todo with
  | nil =>
      obtain rfl := List.eq_nil_of_length_eq_zero hlen
      exact ⟨mem, [], rfl, harray, fun _ _ _ h => h, .nil⟩
  | cons s ss ih =>
      obtain ⟨q, todo, rfl⟩ := List.exists_cons_of_length_eq_add_one hlen
      -- the string is allocated, and its address stored at index `done.length`
      have harray₁ := Mem.ext_alloc mem (.bytes (utf8 (JString.text s) ++ [0])) _ _ harray
      have hstr := cStrAt_alloc mem (JString.text s)
      have hne : (mem.alloc (.bytes (utf8 (JString.text s) ++ [0]))).1 ≠ array := fun h =>
        Store.not_live_alloc mem _ (h ▸ Store.live_iff.mpr ⟨_, harray⟩)
      generalize hp : (mem.alloc (.bytes (utf8 (JString.text s) ++ [0]))).1 = p at hstr hne
      generalize hmem₁ : (mem.alloc (.bytes (utf8 (JString.text s) ++ [0]))).2 = mem₁
        at harray₁ hstr
      have hext₁ : Mem.Ext mem mem₁ := hmem₁ ▸ Mem.ext_alloc mem _
      have hset : (setAtIndex array done.length p).exec mem₁ =
          (.ok (), mem₁.put array (.pointers ((done ++ [p]) ++ todo))) := by
        rw [setAtIndex, Prog.exec_updates, harray₁]
        simp
      have hext₂ : Mem.ExtBut array mem₁ (mem₁.put array (.pointers ((done ++ [p]) ++ todo))) :=
        fun r x hr hx => by rwa [Store.get?_put_of_ne hr]
      obtain ⟨mem', ps, hrun, harray', hext, hall⟩ := ih
        (mem₁.put array (.pointers ((done ++ [p]) ++ todo))) (done ++ [p]) todo
        (Store.get?_put_self harray₁) (by simpa using hlen)
      rw [List.length_append, List.length_singleton] at hrun
      refine ⟨mem', p :: ps, ?_, ?_, fun r x hr hx => ?_, .cons ?_ hall⟩
      · have hfrom : (allocateFrom (some s)).exec mem = (.ok p, mem₁) := by
          rw [← hp, ← hmem₁]
          rfl
        rw [List.map_cons, fillStringArray, Prog.exec_bind_ok hfrom, Prog.exec_bind_ok hset]
        exact hrun
      · rw [harray', List.append_assoc]
        rfl
      · exact hext r x hr (hext₂ r x hr (hext₁ r x hx))
      · exact hstr.imp fun rest hrest => hext p _ hne (hext₂ p _ hne hrest)

/-- A null element stops the loop. -/
theorem fillStringArray_null (array : Addr) (strings : List (Option JString)) (i : Nat) (mem : Mem)
    (h : none ∈ strings) :
    ∃ t mem', (fillStringArray array i strings).exec mem = (.error t, mem') := by
  induction strings generalizing i mem with
  | nil => contradiction
  | cons arg strings ih =>
      cases arg with
      | none => exact ⟨.nullPointerException, mem, rfl⟩
      | some s =>
          have hrest : none ∈ strings := by simpa using h
          have hfrom : ∃ p mem₁, (allocateFrom (some s)).exec mem = (.ok p, mem₁) := ⟨_, _, rfl⟩
          obtain ⟨p, mem₁, hfrom⟩ := hfrom
          have hset : ∃ mem₂, (setAtIndex array i p).exec mem₁ = (.ok (), mem₂) := ⟨_, rfl⟩
          obtain ⟨mem₂, hset⟩ := hset
          rw [fillStringArray, Prog.exec_bind_ok hfrom, Prog.exec_bind_ok hset]
          exact ih (i + 1) mem₂ hrest

/-- A list of arguments is given, or has a null in it. -/
private theorem given_or_null (strings : List (Option JString)) :
    (∃ ss : List JString, strings = ss.map some) ∨ none ∈ strings := by
  induction strings with
  | nil => exact .inl ⟨[], rfl⟩
  | cons arg strings ih =>
      cases arg with
      | none => exact .inr List.mem_cons_self
      | some s =>
          rcases ih with ⟨ss, rfl⟩ | h
          · exact .inl ⟨s :: ss, rfl⟩
          · exact .inr (List.mem_cons_of_mem _ h)

/-- An array with a null element is not given. -/
private theorem not_given_of_null {strings : List (Option JString)} (h : none ∈ strings) :
    ¬ JArgs.Given (some strings) := by
  rintro ⟨ss, hss⟩
  rw [Option.some.inj hss, List.mem_map] at h
  obtain ⟨s, -, hs⟩ := h
  contradiction

/-- **An array arrives element by element.** -/
theorem allocateStringArray_yields (args : JArgs) :
    Yields (allocateStringArray args) (JArgs.Given args) fun mem a => ArgsAt mem a args := by
  intro mem
  cases args with
  | none => rintro ⟨ss, hss⟩; contradiction
  | some strings =>
      have halloc : (Prog.updates fun mem : Mem =>
          mem.alloc (.pointers (List.replicate strings.length 0)) : ArenaM Addr).exec mem =
          (.ok (mem.alloc (.pointers (List.replicate strings.length 0))).1,
            (mem.alloc (.pointers (List.replicate strings.length 0))).2) := rfl
      have harray := Store.get?_alloc_self mem (.pointers (List.replicate strings.length 0))
      have hext := Mem.ext_alloc mem (.pointers (List.replicate strings.length 0))
      have hdead := Store.not_live_alloc mem (.pointers (List.replicate strings.length 0))
      rw [allocateStringArray, Prog.exec_bind_ok halloc]
      generalize (mem.alloc (.pointers (List.replicate strings.length 0))).1 = array
        at harray hdead ⊢
      generalize (mem.alloc (.pointers (List.replicate strings.length 0))).2 = mem₁
        at harray hext ⊢
      rcases given_or_null strings with ⟨ss, rfl⟩ | hnull
      · obtain ⟨mem', ps, hrun, harray', hbut, hall⟩ := exec_fillStringArray array ss mem₁ []
          (List.replicate (ss.map some).length 0) harray (by simp)
        rw [List.length_nil] at hrun
        rw [Prog.exec_bind_ok hrun, Prog.exec_pure]
        refine ⟨⟨ss, rfl⟩, fun p x hx => ?_, ss, rfl, ps, harray', ?_, hall⟩
        · have hne : p ≠ array := fun h => hdead (h ▸ Store.live_iff.mpr ⟨x, hx⟩)
          exact hbut p x hne (hext p x hx)
        · simpa using hall.length_eq.symm
      · obtain ⟨t, mem', hrun⟩ := fillStringArray_null array strings 0 mem₁ hnull
        rw [Prog.exec_bind_error hrun]
        exact not_given_of_null hnull

/-! ## the arguments of a method -/

section Ops

variable {Str Strs Join : Type}

/-- Every argument of a function satisfies its predicate. -/
def UnaryOp.All (P : Str → Prop) (Q : Strs → Prop) : UnaryOp Str Strs → Prop
  | .filter expr => P expr
  | .select exprs | .sort exprs => Q exprs
  | .limit _ _ | .distinct | .explain _ _ => True
  | .aggregate groupExprs aggrExprs => Q groupExprs ∧ Q aggrExprs
  | .selectColumns cols | .dropColumns cols => Q cols
  | .withColumn name expr => P name ∧ P expr
  | .withColumnRenamed oldName newName => P oldName ∧ P newName

def BinaryOp.All (Q : Strs → Prop) : BinaryOp Join Strs → Prop
  | .join _ leftCols rightCols => Q leftCols ∧ Q rightCols
  | .union | .unionDistinct | .except | .intersect => True

end Ops

/-- No string argument is null. -/
abbrev UnaryOp.Given (op : UnaryOp JArg JArgs) : Prop := op.All JArg.Given JArgs.Given

abbrev BinaryOp.Given {Join : Type} (op : BinaryOp Join JArgs) : Prop := op.All JArgs.Given

/-- One allocation, and the call it is for. -/
theorem Yields.one {x : ArenaM α} {ok : Prop} {post : Mem → α → Prop} {f : α → β}
    {post' : Mem → β → Prop} (hx : Yields x ok post) (hs : Stable post)
    (hpost : ∀ mem a, post mem a → post' mem (f a)) :
    Yields (do return f (← x)) ok post' :=
  (hx.bind (Q := fun a _ b => b = f a) hs fun a => .pure (f a) fun _ => rfl).imp
    (and_iff_left trivial) fun mem _ ⟨a, ha, hb⟩ => hb ▸ hpost mem a ha

/-- Two allocations, and the call they are for. -/
theorem Yields.two {γ : Type} {x : ArenaM α} {y : ArenaM β} {ok ok' : Prop}
    {post : Mem → α → Prop} {post' : Mem → β → Prop} {f : α → β → γ} {post'' : Mem → γ → Prop}
    (hx : Yields x ok post) (hs : Stable post) (hy : Yields y ok' post') (hs' : Stable post')
    (hpost : ∀ mem a b, post mem a → post' mem b → post'' mem (f a b)) :
    Yields (do
      let a ← x
      let b ← y
      return f a b) (ok ∧ ok') post'' :=
  (hx.bind (Q := fun a mem c => ∃ b, post' mem b ∧ c = f a b) hs fun _ =>
    hy.one hs' fun _ b hb => ⟨b, hb, rfl⟩).imp Iff.rfl
    fun mem _ ⟨a, ha, b, hb, hc⟩ => hc ▸ hpost mem a b ha hb

/-- The two strings of a registration arrive. -/
theorem allocateNameAndPath_yields (name path : JArg) :
    Yields (allocateNameAndPath name path) (JArg.Given name ∧ JArg.Given path)
      fun mem p => ArgAt mem p.1 name ∧ ArgAt mem p.2 path :=
  (allocateFrom_yields name).two (stable_argAt name) (allocateFrom_yields path) (stable_argAt path)
    fun _ _ _ hn hp => ⟨hn, hp⟩

/-- **The arguments of a frame method arrive**, each behind its own
address, unless one of them is null. -/
theorem UnaryOp.marshal_yields (op : UnaryOp JArg JArgs) :
    Yields op.marshal op.Given fun mem op' => op'.Rel (ArgAt mem) (ArgsAt mem) op := by
  cases op with
  | filter e => exact (allocateFrom_yields e).one (stable_argAt e) fun _ _ h => h
  | select es => exact (allocateStringArray_yields es).one (stable_argsAt es) fun _ _ h => h
  | limit skip fetch => exact .pure _ fun _ => ⟨rfl, rfl⟩
  | sort es => exact (allocateStringArray_yields es).one (stable_argsAt es) fun _ _ h => h
  | distinct => exact .pure _ fun _ => trivial
  | aggregate g a =>
      exact (allocateStringArray_yields g).two (stable_argsAt g) (allocateStringArray_yields a)
        (stable_argsAt a) fun _ _ _ hg ha => ⟨hg, ha⟩
  | selectColumns cs => exact (allocateStringArray_yields cs).one (stable_argsAt cs) fun _ _ h => h
  | dropColumns cs => exact (allocateStringArray_yields cs).one (stable_argsAt cs) fun _ _ h => h
  | withColumn n e =>
      exact (allocateFrom_yields n).two (stable_argAt n) (allocateFrom_yields e) (stable_argAt e)
        fun _ _ _ hn he => ⟨hn, he⟩
  | withColumnRenamed o n =>
      exact (allocateFrom_yields o).two (stable_argAt o) (allocateFrom_yields n) (stable_argAt n)
        fun _ _ _ ho hn => ⟨ho, hn⟩
  | explain v a => exact .pure _ fun _ => ⟨rfl, rfl⟩

/-- The allocations of a method on two frames. -/
theorem BinaryOp.marshal_yields {Join : Type} (op : BinaryOp Join JArgs) :
    Yields op.marshal op.Given fun mem op' => op'.Rel (ArgsAt mem) op := by
  cases op with
  | join jt l r =>
      exact (allocateStringArray_yields l).two (stable_argsAt l) (allocateStringArray_yields r)
        (stable_argsAt r) fun _ _ _ hl hr => ⟨rfl, hl, hr⟩
  | union => exact .pure _ fun _ => trivial
  | unionDistinct => exact .pure _ fun _ => trivial
  | except => exact .pure _ fun _ => trivial
  | intersect => exact .pure _ fun _ => trivial

/-! ## in the arena of a call -/

/-- A method whose arguments cannot be allocated throws before anything
else happens; otherwise it goes on with them. -/
theorem exec_confined {x : ArenaM α} {ok : Prop} {post : Mem → α → Prop} (h : Yields x ok post)
    (f : α × Mem → JavaM T β) (n : Native T) :
    (¬ ok ∧ ∃ t, (confined x >>= f).exec n = (.error (.thrown t), n)) ∨
      ok ∧ ∃ a mem, post mem a ∧ (confined x >>= f).exec n = (f (a, mem)).exec n := by
  have hm := h .empty
  rcases hx : x.exec .empty with ⟨t | a, mem⟩ <;> rw [hx] at hm
  · have hexec : (confined x : JavaM T (α × Mem)).exec n = (.error (.thrown t), n) := by
      rw [confined, Prog.exec_reads, hx]
    exact .inl ⟨hm, t, Prog.exec_bind_error hexec⟩
  · have hexec : (confined x : JavaM T (α × Mem)).exec n = (.ok (a, mem), n) := by
      rw [confined, Prog.exec_reads, hx]
    exact .inr ⟨hm.1, a, mem, hm.2.2, Prog.exec_bind_ok hexec⟩

end DataFusionPanama
