import DataFusionPanama.Native.Spec
import DataFusionPanama.SortKeys

/-!
# DataFusionPanama.Native.Sort

`dataframe_sort` on the texts of sort keys.  The engine's `sort` is called
once, with one `SortExpr` for each key in the order of the keys; or, when
the expression of some key does not parse, the call ends in the error of
the first such key.
-/

namespace DataFusionPanama

variable {T : Types}

/-- A key that can be told from the keywords behind it, in a C string. -/
structure KeySpec.Plain (k : KeySpec) : Prop where
  trimmed : Trimmed k.expr
  nulFree : nul ∉ k.expr
  unambiguous : k.Unambiguous

/-- The text of a key: single spaces, keywords in any letter case, and any
whitespace around it. -/
def KeySpec.Spelled (k : KeySpec) (s : Text) : Prop :=
  ∃ (t : Typing) (w w' : Text), t.Spells k ∧ t.beforeDirection = [' '] ∧ t.beforeNulls = [' '] ∧
    t.beforeOrder = [' '] ∧ Blank w ∧ Blank w' ∧ s = w ++ k.written t ++ w'

/-- One space is a run of separators. -/
private theorem sepRun_space : SepRun [' '] := by decide

/-- A spelled key is read as it was meant. -/
theorem KeySpec.Spelled.sortKey_eq {k : KeySpec} {s : Text} (h : k.Spelled s) (hk : k.Plain) :
    sortKey s = pure (k.sortExpr k.expr) := by
  obtain ⟨t, w, w', ht, hd, hn, ho, hw, hw', rfl⟩ := h
  have hsep : t.Separated := ⟨hd ▸ sepRun_space, hn ▸ sepRun_space, ho ▸ sepRun_space⟩
  have hspace : EndsInSpace [' '] := rfl
  have hs : t.Spaced k := by
    unfold Typing.Spaced
    rw [hd, hn, ho]
    split
    · trivial
    · exact hspace
    · exact ⟨hspace, rfl⟩
    · exact ⟨hspace, rfl, rfl⟩
  exact sortKey_written hk.trimmed hk.unambiguous ht hsep hs hw hw'

/-! ## a spelled key contains no NUL -/

/-- A NUL is no blank. -/
private theorem nul_notMem_of_blank {w : Text} (h : Blank w) : nul ∉ w := fun hm =>
  absurd (h nul hm) (by decide)

/-- Nor is it in a keyword, however that is written. -/
private theorem nul_notMem_of_isCaseOf {key k : Text} (hkey : nul ∉ key) (h : IsCaseOf key k) :
    nul ∉ k := fun hm => by
  have hmap := List.mem_map_of_mem (f := Char.toUpper) hm
  rw [h] at hmap
  exact hkey hmap

/-- So there is none in a spelled key. -/
theorem KeySpec.Spelled.nulFree {k : KeySpec} {s : Text} (h : k.Spelled s) (hk : k.Plain) :
    nul ∉ s := by
  obtain ⟨t, w, w', ht, hd, hn, ho, hw, hw', rfl⟩ := h
  have hsp : nul ∉ [' '] := by decide
  have hnulls : nul ∉ t.nulls := nul_notMem_of_isCaseOf (by decide) ht.nulls
  have hdir : nul ∉ t.directionPart k.direction := by
    cases hdk : k.direction with
    | none => exact List.not_mem_nil
    | some d =>
        have hword : nul ∉ t.direction :=
          nul_notMem_of_isCaseOf (by cases d <;> decide) (ht.direction d hdk)
        simpa [Typing.directionPart, hd] using ⟨by decide, hword⟩
  have hpart : nul ∉ t.nullsPart k.nulls := by
    cases hok : k.nulls with
    | none => exact List.not_mem_nil
    | some o =>
        have hword : nul ∉ t.order :=
          nul_notMem_of_isCaseOf (by cases o <;> decide) (ht.order o hok)
        simpa [Typing.nullsPart, hn, ho] using ⟨by decide, hnulls, by decide, hword⟩
  simp [KeySpec.written, nul_notMem_of_blank hw, nul_notMem_of_blank hw', hk.nulFree, hdir, hpart]

/-! ## the keys of a call -/

section Keys

variable {E : Engine T} {df : T.Plan}

/-- The keys whose expressions parse, parsed. -/
def Parses (E : Engine T) (df : T.Plan) (keys : List KeySpec) (exprs : List T.Expr) : Prop :=
  List.Forall₂ (fun k e => E.parseSqlExpr df k.expr = .ok e) keys exprs

/-- Only the expression of a spelled key is left to parse. -/
theorem parseSortExpr_spelled {k : KeySpec} {s : Text} (h : k.Spelled s) (hk : k.Plain) :
    parseSortExpr (E.parseSqlExpr df) s =
      (do pure (k.sortExpr (← E.parseSqlExpr df k.expr))) :=
  parseSortExpr_eq (h.sortKey_eq hk)

/-- Keys that all parse give one sort expression each, in order. -/
theorem mapM_parseSortExpr {keys : List KeySpec} {texts : List Text} {exprs : List T.Expr}
    (hk : ∀ k ∈ keys, k.Plain) (ht : List.Forall₂ KeySpec.Spelled keys texts)
    (hp : Parses E df keys exprs) :
    texts.mapM (parseSortExpr (E.parseSqlExpr df)) =
      pure (List.zipWith KeySpec.sortExpr keys exprs) := by
  induction ht generalizing exprs with
  | nil => cases hp; rfl
  | @cons k s keys texts hs _ ih =>
      cases hp with
      | @cons _ e _ exprs he hes =>
        rw [List.mapM_cons, parseSortExpr_spelled hs (hk k List.mem_cons_self), he,
          ih (fun k' h => hk k' (List.mem_cons_of_mem k h)) hes]
        rfl

/-- The first key that does not parse decides. -/
theorem mapM_parseSortExpr_error {pre : List KeySpec} {k : KeySpec} {post : List KeySpec}
    {texts : List Text} {exprs : List T.Expr} {e : Fault}
    (hk : ∀ k' ∈ pre ++ k :: post, k'.Plain)
    (ht : List.Forall₂ KeySpec.Spelled (pre ++ k :: post) texts) (hp : Parses E df pre exprs)
    (he : E.parseSqlExpr df k.expr = .error e) :
    texts.mapM (parseSortExpr (E.parseSqlExpr df)) = throw e := by
  induction hp generalizing texts with
  | nil =>
      cases ht with
      | cons hs _ =>
        rw [List.mapM_cons, parseSortExpr_spelled hs (hk k List.mem_cons_self), he]
        rfl
  | @cons k' e' pre exprs he' _ ih =>
      cases ht with
      | cons hs hts =>
        rw [List.mapM_cons, parseSortExpr_spelled hs (hk k' List.mem_cons_self), he',
          ih (fun k'' h => hk k'' (List.mem_cons_of_mem _ h)) hts]
        rfl

/-- Without NULs, the texts arrive as they are. -/
theorem map_beforeNul_of_spelled {keys : List KeySpec} {texts : List Text}
    (hk : ∀ k ∈ keys, k.Plain) (ht : List.Forall₂ KeySpec.Spelled keys texts) :
    texts.map beforeNul = texts := by
  induction ht with
  | nil => rfl
  | @cons k s keys texts hs _ ih =>
      rw [List.map_cons, beforeNul_eq_self (hs.nulFree (hk k List.mem_cons_self)),
        ih fun k' h => hk k' (List.mem_cons_of_mem _ h)]

end Keys

/-- **Sort keys reach the engine as they were meant**: one `SortExpr` a key,
in order, or the error of the first key that does not parse, and then no
frame. -/
theorem dataframeSort_keys (E : Engine T) (mem : Mem) (n : Native T) (runtime dataframe : Addr)
    (exprs : StrArray) (df : T.Plan) (keys : List KeySpec) (texts : List Text)
    (hrt : n.boxes.get? runtime = some .runtime)
    (hdf : n.boxes.get? dataframe = some (.dataframe df)) (hk : ∀ k ∈ keys, k.Plain)
    (ht : List.Forall₂ KeySpec.Spelled keys texts)
    (hmem : CStrArrayAt mem exprs (texts.map CString.ofText)) :
    let call := (Downcall.unary (.sort exprs) runtime dataframe).invoke E mem n
    (∀ parsed, Parses E df keys parsed →
      call = ffiResult (makeFrame (E.sort df (List.zipWith KeySpec.sortExpr keys parsed))) n) ∧
    ∀ pre k post parsed e, keys = pre ++ k :: post → Parses E df pre parsed →
      E.parseSqlExpr df k.expr = .error e →
      call = ffiResult (throw e) n ∧ call.2.boxes = n.boxes := by
  intro call
  have hcall : call = ffiResult (makeFrame (do
      E.sort df (← texts.mapM (parseSortExpr (E.parseSqlExpr df))))) n := by
    have hop : (UnaryOp.sort exprs).Stored mem (.sort (texts.map CString.ofText)) := hmem
    have hstrs := mapM_toStr_ofText E texts
    rw [map_beforeNul_of_spelled hk ht] at hstrs
    have heval :
        (UnaryOp.sort (texts.map CString.ofText) : UnaryOp CString (List CString)).eval E df =
        (do E.sort df (← texts.mapM (parseSortExpr (E.parseSqlExpr df)))) := by
      rw [UnaryOp.eval, UnaryOp.apply, hstrs, pure_bind]
    rw [← heval]
    simp only [call, Downcall.invoke, Downcall.body, ffiResult, exec_unaryOp hrt hdf hop]
  constructor
  · intro parsed hp
    rw [hcall, mapM_parseSortExpr hk ht hp, pure_bind]
  · rintro pre k post parsed e rfl hp he
    rw [hcall, mapM_parseSortExpr_error hk ht hp he]
    refine ⟨rfl, ?_⟩
    change (ffiResult (throw e) n).2.boxes = _
    rw [ffiResult, Prog.exec_throw]
    dsimp only
    split <;> rfl

/-- An engine that knows no column `a`. -/
private def withoutColumnA : Engine planTypes :=
  { planEngine with
    parseSqlExpr := fun _ expr =>
      if expr = "a".toList then throw (.err "Schema error: No field named a.".toList)
      else pure expr }

/-- The keys ` b` and `a desc nulls first`, on an engine that parses both
expressions and on one that parses only the first. -/
theorem dataframeSort_two_keys :
    let n : Native planTypes :=
      ⟨⟨[some .runtime, some (.dataframe (.query "SELECT a, b FROM t".toList))]⟩, .empty, .empty,
        [], [], []⟩
    let mem : Mem := ⟨[some (.bytes (utf8 " b".toList ++ [0])),
      some (.bytes (utf8 "a desc nulls first".toList ++ [0])), some (.pointers [1, 2])]⟩
    let sort : Downcall := .unary (.sort (3, 2)) 1 2
    sort.invoke planEngine mem n =
      ffiResult (makeFrame (T := planTypes) (pure (LogicalPlan.sort
        (.query "SELECT a, b FROM t".toList)
        [⟨"b".toList, true, false⟩, ⟨"a".toList, false, true⟩]))) n ∧
    sort.invoke withoutColumnA mem n =
      ffiResult (throw (.err "Schema error: No field named a.".toList)) n ∧
    (sort.invoke withoutColumnA mem n).2.boxes = n.boxes := by
  intro n mem sort
  let b : KeySpec := ⟨"b".toList, none, none⟩
  let a : KeySpec := ⟨"a".toList, some .desc, some .first⟩
  have hkeys : ∀ k ∈ [b, a], k.Plain := fun k hk => by
    rcases List.mem_pair.mp hk with rfl | rfl
    · exact ⟨by decide, by decide, by decide, by decide⟩
    · exact ⟨by decide, by decide, by decide, by decide⟩
  have hb : b.Spelled " b".toList :=
    ⟨⟨[' '], [], [' '], "NULLS".toList, [' '], []⟩, [' '], [],
      ⟨by decide, by decide, by decide⟩, rfl, rfl, rfl, by decide, by decide, by decide⟩
  have ha : a.Spelled "a desc nulls first".toList :=
    ⟨⟨[' '], "desc".toList, [' '], "nulls".toList, [' '], "first".toList⟩, [], [],
      ⟨by decide, by decide, by decide⟩, rfl, rfl, rfl, by decide, by decide, by decide⟩
  have hspelled : List.Forall₂ KeySpec.Spelled [b, a] [" b".toList, "a desc nulls first".toList] :=
    .cons hb (.cons ha .nil)
  have hmem : CStrArrayAt mem (3, 2)
      ([" b".toList, "a desc nulls first".toList].map CString.ofText) :=
    ⟨[1, 2], rfl, rfl, .cons ⟨[], by decide⟩ (.cons ⟨[], by decide⟩ .nil)⟩
  have hsorted := (dataframeSort_keys planEngine mem n 1 2 (3, 2)
    (.query "SELECT a, b FROM t".toList) [b, a] _ rfl rfl hkeys hspelled hmem).1
      ["b".toList, "a".toList] (.cons rfl (.cons rfl .nil))
  have hrefused := (dataframeSort_keys withoutColumnA mem n 1 2 (3, 2)
    (.query "SELECT a, b FROM t".toList) [b, a] _ rfl rfl hkeys hspelled hmem).2
      [b] a [] ["b".toList] (.err "Schema error: No field named a.".toList) rfl
      (.cons rfl .nil) rfl
  exact ⟨hsorted, hrefused⟩

end DataFusionPanama
