import DataFusionPanama.Java.Api
import DataFusionPanama.Java.Marshal

/-!
# DataFusionPanama.Arrival

Which text the engine sees for a Java string.  Strings travel as
NUL-terminated UTF-8, so a string arrives up to its first U+0000 and with
unpaired surrogates replaced (`JString.arrived`), and unchanged exactly
when it has neither.  Arrays keep their length and order, and the two arrays
of `aggregate` and `join` keep their places.
-/

namespace DataFusionPanama

variable {T : Types}

/-! ## one string -/

/-- A string arrives unchanged exactly when it contains no U+0000 and no
unpaired surrogate. -/
theorem encodeUtf16_arrived_iff (s : JString) :
    encodeUtf16 (JString.arrived s) = s ↔ (0 : UInt16) ∉ s ∧ hasUnpairedSurrogate s = false := by
  have hq : utf16EncodeChar '?' = [63] := by decide
  have hlen : (utf16EncodeChar '?').length = 1 := by rw [hq]; rfl
  have hsub : ∀ u, utf16EncodeChar '?' = [u] →
      isHighSurrogate u = false ∧ isLowSurrogate u = false := by
    intro u hu
    cases hq.symm.trans hu
    decide
  have hnul : nul ∈ JString.text s ↔ (0 : UInt16) ∈ s := nul_mem_decodeUtf16_iff (by decide) s
  by_cases h : nul ∈ JString.text s
  · -- what is cut off makes the string shorter
    refine ⟨fun he => ?_, fun hs => absurd (hnul.mp h) hs.1⟩
    obtain ⟨rest, hrest⟩ := beforeNul_append h
    have hcut := length_encodeUtf16_decodeUtf16 hlen s
    have hshort := congrArg List.length he
    change (encodeUtf16 (JString.text s)).length = _ at hcut
    rw [hrest, encodeUtf16_append, List.length_append, encodeUtf16_cons, List.length_append] at hcut
    have hn : (utf16EncodeChar nul).length = 1 := by decide
    rw [JString.arrived] at hshort
    omega
  · rw [JString.arrived, beforeNul_eq_self h, JString.text, encodeUtf16_decodeUtf16_iff hsub hlen]
    exact (and_iff_right fun h0 => h (hnul.mpr h0)).symm

/-- A Java string is decoded to what of it arrives. -/
theorem toStr_cString (E : Engine T) (s : JString) :
    (JString.cString s).toStr E = pure (JString.arrived s) := toStr_ofText E (JString.text s)

/-- So is every string of an array. -/
theorem mapM_toStr_cString (E : Engine T) (ss : List JString) :
    (ss.map JString.cString).mapM (CString.toStr E) = pure (ss.map JString.arrived) := by
  have h := mapM_toStr_ofText E (ss.map JString.text)
  rwa [List.map_map, List.map_map] at h

/-! ## the calls of a method -/

/-- A frame method's arguments, none of them null. -/
abbrev UnaryOp.java (op : UnaryOp JString (List JString)) : UnaryOp JArg JArgs :=
  op.map some fun ss => some (ss.map some)

abbrev BinaryOp.java (op : BinaryOp JoinType (List JString)) : BinaryOp (Option JoinType) JArgs :=
  op.map some fun ss => some (ss.map some)

/-- What the engine is asked to do with a frame method's arguments. -/
def UnaryOp.delivered (op : UnaryOp JString (List JString)) : UnaryOp Text (List Text) :=
  op.map JString.arrived (List.map JString.arrived)

def BinaryOp.delivered (op : BinaryOp JoinType (List JString)) : BinaryOp JoinType (List Text) :=
  op.map id (List.map JString.arrived)

/-- A call with strings has all its arguments. -/
theorem UnaryOp.given_java (op : UnaryOp JString (List JString)) : op.java.Given := by
  cases op with
  | filter e => exact ⟨e, rfl⟩
  | select es | sort es | selectColumns es | dropColumns es => exact ⟨es, rfl⟩
  | limit | distinct | explain => trivial
  | aggregate g a => exact ⟨⟨g, rfl⟩, a, rfl⟩
  | withColumn n e | withColumnRenamed n e => exact ⟨⟨n, rfl⟩, e, rfl⟩

/-- So has a call on two frames. -/
theorem BinaryOp.given_java (op : BinaryOp JoinType (List JString)) : op.java.Given := by
  cases op with
  | join jt l r => exact ⟨⟨l, rfl⟩, r, rfl⟩
  | union | unionDistinct | except | intersect => trivial

/-- Behind the address of an argument is its C string. -/
private theorem cStrAt_of_argAt {mem : Mem} (p : Addr) (s : JString) (h : ArgAt mem p (some s)) :
    CStrAt mem p (JString.cString s) := by
  obtain ⟨s', hs, hp⟩ := h
  cases hs
  exact hp

/-- Behind that of an array are its C strings. -/
private theorem cStrArrayAt_of_argsAt {mem : Mem} (a : StrArray) (ss : List JString)
    (h : ArgsAt mem a (some (ss.map some))) : CStrArrayAt mem a (ss.map JString.cString) := by
  obtain ⟨ss', hss, ha⟩ := h
  have heq : ss = ss' :=
    List.map_injective_iff.mpr (fun _ _ => Option.some.inj) (Option.some.inj hss)
  rwa [heq]

/-- An allocation that is bound to succeed. -/
theorem Yields.run {α : Type} {x : ArenaM α} {ok : Prop} {post : Mem → α → Prop}
    (h : Yields x ok post) (hok : ok) (mem : Mem) :
    ∃ a mem', x.exec mem = (.ok a, mem') ∧ post mem' a := by
  have hm := h mem
  rcases hx : x.exec mem with ⟨e | a, mem'⟩ <;> rw [hx] at hm
  · exact absurd hok hm
  · exact ⟨a, mem', rfl, hm.2.2⟩

/-- An array arrives with its length and its order. -/
theorem array_arrives (E : Engine T) (js : List JString) (mem : Mem) :
    ∃ a mem', (allocateStringArray (some (js.map some))).exec mem = (.ok a, mem') ∧
      parseCStrArray E mem' a.1 a.2 = pure (js.map JString.arrived) := by
  obtain ⟨a, mem', hrun, ha⟩ :=
    (allocateStringArray_yields (some (js.map some))).run ⟨js, rfl⟩ mem
  refine ⟨a, mem', hrun, ?_⟩
  rw [parseCStrArray_eq (cStrArrayAt_of_argsAt a js ha), mapM_toStr_cString]

section Methods

/-- The engine sees a method's arguments as they arrived. -/
theorem unary_arrives (op : UnaryOp JString (List JString)) :
    ∃ op' mem, op.java.marshal.exec .empty = (.ok op', mem) ∧
      ∀ (E : Engine T) (n : Native T) (runtime dataframe : Addr) (df : T.Plan),
        n.boxes.get? runtime = some .runtime → n.boxes.get? dataframe = some (.dataframe df) →
        (op'.body E mem runtime dataframe).exec n =
          (makeFrame (op.delivered.apply E pure pure df)).exec n := by
  obtain ⟨op', mem, hrun, hrel⟩ := (UnaryOp.marshal_yields op.java).run op.given_java .empty
  have hstored : op'.Stored mem (op.map JString.cString (List.map JString.cString)) :=
    UnaryOp.rel_map.mpr ((UnaryOp.rel_map.mp hrel).imp cStrAt_of_argAt cStrArrayAt_of_argsAt)
  refine ⟨op', mem, hrun, fun E n runtime dataframe df hrt hdf => ?_⟩
  rw [exec_unaryOp hrt hdf hstored, UnaryOp.eval, UnaryOp.delivered, UnaryOp.apply_map,
    UnaryOp.apply_map]
  congr 3
  · exact funext (toStr_cString E)
  · exact funext (mapM_toStr_cString E)

/-- The join type of a marshalled call is one the native side knows. -/
private theorem exists_nativeValue {mem : Mem} {op : BinaryOp JoinType (List JString)}
    {op' : BinaryOp (Option JoinType) StrArray} (h : op'.Rel (ArgsAt mem) op.java) :
    ∃ op'' : BinaryOp Int StrArray,
      (∀ (T : Types), (op'.nativeValue : JavaM T (BinaryOp Int StrArray)) = pure op'') ∧
      op''.Stored mem (op.map JoinType.nativeValue (List.map JString.cString)) := by
  cases op <;> cases op' <;> try contradiction
  case join jt l r jt' l' r' =>
    obtain ⟨rfl, hl, hr⟩ := h
    exact ⟨.join jt.nativeValue l' r', fun _ => rfl, rfl, cStrArrayAt_of_argsAt _ _ hl,
      cStrArrayAt_of_argsAt _ _ hr⟩
  case union => exact ⟨.union, fun _ => rfl, trivial⟩
  case unionDistinct => exact ⟨.unionDistinct, fun _ => rfl, trivial⟩
  case except => exact ⟨.except, fun _ => rfl, trivial⟩
  case intersect => exact ⟨.intersect, fun _ => rfl, trivial⟩

/-- ... and so it does those of a method on two frames. -/
theorem binary_arrives (op : BinaryOp JoinType (List JString)) :
    ∃ op' mem, op.java.marshal.exec .empty = (.ok op', mem) ∧ ∃ op'' : BinaryOp Int StrArray,
      (op'.nativeValue : JavaM T (BinaryOp Int StrArray)) = pure op'' ∧
      ∀ (E : Engine T) (n : Native T) (runtime left right : Addr) (leftDf rightDf : T.Plan),
        n.boxes.get? runtime = some .runtime → n.boxes.get? left = some (.dataframe leftDf) →
        n.boxes.get? right = some (.dataframe rightDf) →
        (op''.body E mem runtime left right).exec n =
          (makeFrame (op.delivered.apply E pure pure leftDf rightDf)).exec n := by
  obtain ⟨op', mem, hrun, hrel⟩ := (BinaryOp.marshal_yields op.java).run op.given_java .empty
  obtain ⟨op'', hvalue, hstored⟩ := exists_nativeValue hrel
  refine ⟨op', mem, hrun, op'', hvalue T, fun E n runtime left right leftDf rightDf hrt hl hr => ?_⟩
  rw [exec_binaryOp hrt hl hr hstored, BinaryOp.eval, BinaryOp.delivered, BinaryOp.apply_map,
    BinaryOp.apply_map]
  congr 3
  · exact funext joinTypeFromInt_nativeValue
  · exact funext (mapM_toStr_cString E)

/-- The query of `sql` arrives. -/
theorem sql_arrives (query : JString) :
    ∃ sql mem, (allocateFrom (some query)).exec .empty = (.ok sql, mem) ∧
      ∀ (E : Engine T) (n : Native T) (runtime session : Addr) (ctx : T.Ctx),
        n.boxes.get? runtime = some .runtime → n.boxes.get? session = some (.session ctx) →
        (sessionSql E mem runtime session sql).exec n =
          (do
            let df ← inSession session (E.sql ctx (JString.arrived query))
            intoRaw (.dataframe df) : FfiM T Addr).exec n := by
  obtain ⟨sql, mem, hrun, harg⟩ := (allocateFrom_yields (some query)).run ⟨query, rfl⟩ .empty
  refine ⟨sql, mem, hrun, fun E n runtime session ctx hrt hsess => ?_⟩
  rw [exec_sessionSql hrt hsess (cStrAt_of_argAt sql query harg), toStr_cString,
    exec_bind_lift_pure]

/-- The table name and the path of a registration arrive. -/
theorem register_arrives (name path : JString) :
    ∃ p mem, (allocateNameAndPath (some name) (some path)).exec .empty = (.ok p, mem) ∧
      ∀ (register : T.Ctx → Text → Text → Outcome Unit × T.Ctx) (E : Engine T) (n : Native T)
        (runtime session : Addr) (ctx : T.Ctx),
        n.boxes.get? runtime = some .runtime → n.boxes.get? session = some (.session ctx) →
        (registerTable E mem register runtime session p.1 p.2).exec n =
          (do
            inSession session (register ctx (JString.arrived name) (JString.arrived path))
            pure 0 : FfiM T Addr).exec n := by
  obtain ⟨p, mem, hrun, hn, hp⟩ :=
    (allocateNameAndPath_yields (some name) (some path)).run ⟨⟨name, rfl⟩, path, rfl⟩ .empty
  refine ⟨p, mem, hrun, fun register E n runtime session ctx hrt hsess => ?_⟩
  rw [exec_registerTable hrt hsess (cStrAt_of_argAt p.1 name hn) (cStrAt_of_argAt p.2 path hp),
    toStr_cString, exec_bind_lift_pure, toStr_cString, exec_bind_lift_pure]

/-! ## all of them -/

/-- **Strings arrive up to their first U+0000**, with unpaired surrogates
replaced: every array at its length and in its order, every argument of
every method at its place; and unchanged exactly when there is neither. -/
theorem strings_arrive :
    (∀ (E : Engine T) (js : List JString) (mem : Mem), ∃ a mem',
      (allocateStringArray (some (js.map some))).exec mem = (.ok a, mem') ∧
        parseCStrArray E mem' a.1 a.2 = pure (js.map JString.arrived)) ∧
    (∀ s : JString, encodeUtf16 (JString.arrived s) = s ↔
      (0 : UInt16) ∉ s ∧ hasUnpairedSurrogate s = false) ∧
    (∀ op : UnaryOp JString (List JString), ∃ op' mem,
      op.java.marshal.exec .empty = (.ok op', mem) ∧
        ∀ (E : Engine T) (n : Native T) (runtime dataframe : Addr) (df : T.Plan),
          n.boxes.get? runtime = some .runtime → n.boxes.get? dataframe = some (.dataframe df) →
          (op'.body E mem runtime dataframe).exec n =
            (makeFrame (op.delivered.apply E pure pure df)).exec n) ∧
    (∀ op : BinaryOp JoinType (List JString), ∃ op' mem,
      op.java.marshal.exec .empty = (.ok op', mem) ∧ ∃ op'' : BinaryOp Int StrArray,
        (op'.nativeValue : JavaM T (BinaryOp Int StrArray)) = pure op'' ∧
        ∀ (E : Engine T) (n : Native T) (runtime left right : Addr) (leftDf rightDf : T.Plan),
          n.boxes.get? runtime = some .runtime → n.boxes.get? left = some (.dataframe leftDf) →
          n.boxes.get? right = some (.dataframe rightDf) →
          (op''.body E mem runtime left right).exec n =
            (makeFrame (op.delivered.apply E pure pure leftDf rightDf)).exec n) ∧
    (∀ query : JString, ∃ sql mem, (allocateFrom (some query)).exec .empty = (.ok sql, mem) ∧
      ∀ (E : Engine T) (n : Native T) (runtime session : Addr) (ctx : T.Ctx),
        n.boxes.get? runtime = some .runtime → n.boxes.get? session = some (.session ctx) →
        (sessionSql E mem runtime session sql).exec n =
          (do
            let df ← inSession session (E.sql ctx (JString.arrived query))
            intoRaw (.dataframe df) : FfiM T Addr).exec n) ∧
    ∀ name path : JString, ∃ p mem,
      (allocateNameAndPath (some name) (some path)).exec .empty = (.ok p, mem) ∧
      ∀ (register : T.Ctx → Text → Text → Outcome Unit × T.Ctx) (E : Engine T) (n : Native T)
        (runtime session : Addr) (ctx : T.Ctx),
        n.boxes.get? runtime = some .runtime → n.boxes.get? session = some (.session ctx) →
        (registerTable E mem register runtime session p.1 p.2).exec n =
          (do
            inSession session (register ctx (JString.arrived name) (JString.arrived path))
            pure 0 : FfiM T Addr).exec n :=
  ⟨array_arrives, encodeUtf16_arrived_iff, unary_arrives, binary_arrives, sql_arrives,
    register_arrives⟩

/-- An array either arrives as it is, or is rejected on one side or the
other. -/
def ArrivesOrRejected (E : Engine T) (js : List JString) : Prop :=
  match (allocateStringArray (some (js.map some))).exec .empty with
  | (.error _, _) => True
  | (.ok a, mem) => match parseCStrArray E mem a.1 a.2 with
    | .error _ => True
    | .ok texts => texts.map encodeUtf16 = js

/-- `"a\u0000b"` arrives as `"a"`. -/
theorem embedded_nul_truncates : ¬ ∀ js : List JString, ArrivesOrRejected planEngine js := by
  intro h
  have hjs := h [[97, 0, 98]]
  obtain ⟨a, mem, hrun, hparse⟩ := array_arrives planEngine [[97, 0, 98]] .empty
  rw [ArrivesOrRejected, hrun] at hjs
  dsimp only at hjs
  rw [hparse] at hjs
  have harrived : [[97, 0, 98]].map JString.arrived = ["a".toList] := by decide
  rw [harrived] at hjs
  have hne : ["a".toList].map encodeUtf16 ≠ [[97, 0, 98]] := by decide
  exact hne hjs

end Methods

end DataFusionPanama
