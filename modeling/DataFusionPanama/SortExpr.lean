import DataFusionPanama.Engine
import DataFusionPanama.Base.Str

/-!
# DataFusionPanama.SortExpr

`parse_sort_expr`: the sort-key strings `expr [ASC|DESC] [NULLS FIRST|NULLS
LAST]`.  There is no tokenizer.  The text is trimmed once, the two optional
suffixes are looked for on its uppercase and cut off the original by byte
length, right to left, and what is left is trimmed and handed to the
engine's expression parser.

The definitions follow the source stage by stage; `stripNulls_*` and
`stripDirection_*` say what each stage does to a text that ends in one of
its keywords and to a text that does not, and everything else is assembled
from them.
-/

namespace DataFusionPanama

/-! ## the keywords -/

def nullsFirstSuffix : Text := " NULLS FIRST".toList
def nullsLastSuffix : Text := " NULLS LAST".toList
def ascSuffix : Text := " ASC".toList
def descSuffix : Text := " DESC".toList

/-! ## the parser -/

/-- `&s[..s.len() - suffix.len()]`: panics when the subtraction underflows
or the index is not a character boundary. -/
def cutSuffix (s suffix : Text) : Outcome Text :=
  if len s < len suffix then throw (.panic "attempt to subtract with overflow")
  else match sliceTo s (len s - len suffix) with
    | some r => pure r
    | none => throw (.panic "byte index is not a char boundary")

/-- Strip NULLS FIRST / NULLS LAST suffix. -/
def stripNulls (trimmed : Text) : Outcome (Text × Option Bool) :=
  let upper := toUppercase trimmed
  if endsWith upper nullsFirstSuffix then do
    pure (← cutSuffix trimmed nullsFirstSuffix, some true)
  else if endsWith upper nullsLastSuffix then do
    pure (← cutSuffix trimmed nullsLastSuffix, some false)
  else pure (trimmed, none)

/-- Strip ASC / DESC suffix. -/
def stripDirection (rest : Text) : Outcome (Text × Bool) :=
  let restUpper := toUppercase rest
  if endsWith restUpper ascSuffix then do
    pure (← cutSuffix rest ascSuffix, true)
  else if endsWith restUpper descSuffix then do
    pure (← cutSuffix rest descSuffix, false)
  else pure (rest, true)

/-- The text handed to the expression parser, with `asc` and `nulls_first`. -/
def sortKey (sql : Text) : Outcome (SortExpr Text) := do
  let (rest, nullsOpt) ← stripNulls (trim sql)
  let (exprStr, asc) ← stripDirection rest
  pure ⟨trim exprStr, asc, nullsOpt.getD (!asc)⟩

/-- Parse a sort expression like `"col DESC NULLS LAST"`.  The parser is
`df.parse_sql_expr`. -/
def parseSortExpr {Expr : Type} (parseSqlExpr : Text → Outcome Expr) (sql : Text) :
    Outcome (SortExpr Expr) := do
  let key ← sortKey sql
  let expr ← parseSqlExpr key.expr
  pure ⟨expr, key.asc, key.nullsFirst⟩

/-! ## cutting -/

/-- A cut by the right number of bytes takes the suffix away. -/
theorem cutSuffix_append {r k suffix : Text} (h : len k = len suffix) :
    cutSuffix (r ++ k) suffix = pure r := by
  have hsub : len (r ++ k) - len suffix = len r := by rw [len_append, h]; omega
  rw [cutSuffix, if_neg (by rw [len_append]; omega), hsub, sliceTo_append]

/-- A keyword in some letter case is as long as the keyword. -/
theorem len_of_isCaseOf {key k : Text} (hkey : ∀ c ∈ key, c.toNat < 128) (h : IsCaseOf key k) :
    len k = len key := by
  have hkey1 : ∀ c ∈ key, c.utf8Size = 1 := fun c hc =>
    Char.utf8Size_eq_one_iff.mpr (UInt32.le_iff_toNat_le.mpr (Nat.le_of_lt_succ (hkey c hc)))
  rw [len_eq_length (utf8Size_of_isCaseOf hkey h), len_eq_length hkey1]
  unfold IsCaseOf at h
  rw [← h, List.length_map]

private theorem ascii_nullsFirst : ∀ c ∈ nullsFirstSuffix, c.toNat < 128 := by decide
private theorem ascii_nullsLast : ∀ c ∈ nullsLastSuffix, c.toNat < 128 := by decide
private theorem ascii_asc : ∀ c ∈ ascSuffix, c.toNat < 128 := by decide
private theorem ascii_desc : ∀ c ∈ descSuffix, c.toNat < 128 := by decide

/-! ## the first stage -/

/-- `NULLS FIRST` in any letter case is recognised and cut. -/
theorem stripNulls_first {r k : Text} (h : IsCaseOf nullsFirstSuffix k) :
    stripNulls (r ++ k) = pure (r, some true) := by
  have hup := toUppercase_of_isCaseOf ascii_nullsFirst h
  have hcut := cutSuffix_append (r := r) (len_of_isCaseOf ascii_nullsFirst h)
  simp only [stripNulls, toUppercase_append, hup, endsWith_append, if_true, hcut]
  rfl

/-- `NULLS LAST` in any letter case is recognised and cut. -/
theorem stripNulls_last {r k : Text} (h : IsCaseOf nullsLastSuffix k) :
    stripNulls (r ++ k) = pure (r, some false) := by
  have hup := toUppercase_of_isCaseOf ascii_nullsLast h
  have hcut := cutSuffix_append (r := r) (len_of_isCaseOf ascii_nullsLast h)
  have hfirst : endsWith (toUppercase r ++ nullsLastSuffix) nullsFirstSuffix = false :=
    not_endsWith_append (by decide) (by decide)
  simp only [stripNulls, toUppercase_append, hup, hfirst, endsWith_append, if_true, hcut]
  rfl

/-- A text without a null ordering is left as it is. -/
theorem stripNulls_none {t : Text} (hf : endsWith (toUppercase t) nullsFirstSuffix = false)
    (hl : endsWith (toUppercase t) nullsLastSuffix = false) : stripNulls t = pure (t, none) := by
  simp [stripNulls, hf, hl]

/-! ## the second stage -/

/-- `ASC` in any letter case is recognised and cut. -/
theorem stripDirection_asc {r k : Text} (h : IsCaseOf ascSuffix k) :
    stripDirection (r ++ k) = pure (r, true) := by
  have hup := toUppercase_of_isCaseOf ascii_asc h
  have hcut := cutSuffix_append (r := r) (len_of_isCaseOf ascii_asc h)
  simp only [stripDirection, toUppercase_append, hup, endsWith_append, if_true, hcut]
  rfl

/-- `DESC` in any letter case is recognised and cut. -/
theorem stripDirection_desc {r k : Text} (h : IsCaseOf descSuffix k) :
    stripDirection (r ++ k) = pure (r, false) := by
  have hup := toUppercase_of_isCaseOf ascii_desc h
  have hcut := cutSuffix_append (r := r) (len_of_isCaseOf ascii_desc h)
  have hasc : endsWith (toUppercase r ++ descSuffix) ascSuffix = false :=
    not_endsWith_append (by decide) (by decide)
  simp only [stripDirection, toUppercase_append, hup, hasc, endsWith_append, if_true, hcut]
  rfl

/-- A text without a direction is left as it is, and ascending. -/
theorem stripDirection_none {t : Text} (ha : endsWith (toUppercase t) ascSuffix = false)
    (hd : endsWith (toUppercase t) descSuffix = false) : stripDirection t = pure (t, true) := by
  simp [stripDirection, ha, hd]

/-! ## assembly -/

/-- The two stages, glued. -/
theorem sortKey_eq {s t exprStr : Text} {nulls : Option Bool} {asc : Bool}
    (hn : stripNulls (trim s) = pure (t, nulls))
    (hd : stripDirection t = pure (exprStr, asc)) :
    sortKey s = pure ⟨trim exprStr, asc, nulls.getD (!asc)⟩ := by
  simp only [sortKey, hn, hd, pure_bind]

/-- What the caller of the expression parser does with a parsed key. -/
theorem parseSortExpr_eq {Expr : Type} {parse : Text → Outcome Expr} {s : Text}
    {key : SortExpr Text} (h : sortKey s = pure key) :
    parseSortExpr parse s = (do pure ⟨← parse key.expr, key.asc, key.nullsFirst⟩) := by
  simp only [parseSortExpr, h, pure_bind]

end DataFusionPanama
