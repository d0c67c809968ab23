import DataFusionPanama.SortExpr

/-!
# DataFusionPanama.SortKeys

What a sort key says, independently of the parser: an expression, an
optional direction and an optional null ordering (`KeySpec`), and the ways
to type one (`Typing`: the letters of the keywords and the blanks in front
of each).  `sortKey_written` is the round trip: a key whose blanks are the
parser's own comes back exactly as it was meant.

The parser compares against suffixes with single spaces in them and does
not trim between its two stages.  `Spaced` is the condition on the blanks
this amounts to, and `lost_of_not_spaced` says that any other blank loses
the key: the expression text that reaches the engine is a different one.
-/

namespace DataFusionPanama

/-! ## keys and their spelling -/

inductive Direction where
  | asc | desc
  deriving DecidableEq, Repr

inductive NullOrder where
  | first | last
  deriving DecidableEq, Repr

def Direction.word : Direction → Text
  | .asc => "ASC".toList
  | .desc => "DESC".toList

def NullOrder.word : NullOrder → Text
  | .first => "FIRST".toList
  | .last => "LAST".toList

def nullsWord : Text := "NULLS".toList

/-- What a sort key says. -/
structure KeySpec where
  expr : Text
  direction : Option Direction
  nulls : Option NullOrder
  deriving DecidableEq, Repr

namespace KeySpec

/-- Ascending unless the direction is `DESC`. -/
def asc (k : KeySpec) : Bool := k.direction != some .desc

/-- The explicit choice, or else nulls come first exactly when descending. -/
def nullsFirst (k : KeySpec) : Bool :=
  match k.nulls with
  | some .first => true
  | some .last => false
  | none => !k.asc

/-- The key with its expression parsed. -/
def sortExpr {Expr : Type} (k : KeySpec) (e : Expr) : SortExpr Expr := ⟨e, k.asc, k.nullsFirst⟩

/-- Without a keyword behind it, the expression must not end in one. -/
structure Unambiguous (k : KeySpec) : Prop where
  direction : k.direction = none → endsWith (toUppercase k.expr) ascSuffix = false ∧
    endsWith (toUppercase k.expr) descSuffix = false
  nulls : k.direction = none → k.nulls = none →
    endsWith (toUppercase k.expr) nullsFirstSuffix = false ∧
      endsWith (toUppercase k.expr) nullsLastSuffix = false

end KeySpec

/-- How the keywords of a key are typed: the letters of each, and the blanks
in front of it. -/
structure Typing where
  beforeDirection : Text
  direction : Text
  beforeNulls : Text
  nulls : Text
  beforeOrder : Text
  order : Text
  deriving DecidableEq, Repr

namespace Typing

/-- The direction as typed; nothing when the key has none. -/
def directionPart (t : Typing) : Option Direction → Text
  | none => []
  | some _ => t.beforeDirection ++ t.direction

/-- The null ordering as typed; nothing when the key has none. -/
def nullsPart (t : Typing) : Option NullOrder → Text
  | none => []
  | some _ => t.beforeNulls ++ t.nulls ++ t.beforeOrder ++ t.order

/-- The letters spell the key's keywords, in any letter case. -/
structure Spells (t : Typing) (k : KeySpec) : Prop where
  direction : ∀ d, k.direction = some d → IsCaseOf d.word t.direction
  nulls : IsCaseOf nullsWord t.nulls
  order : ∀ o, k.nulls = some o → IsCaseOf o.word t.order

end Typing

/-- The text of a key. -/
def KeySpec.written (k : KeySpec) (t : Typing) : Text :=
  k.expr ++ t.directionPart k.direction ++ t.nullsPart k.nulls

/-! ## the keywords as the parser knows them -/

def Direction.suffix : Direction → Text
  | .asc => ascSuffix
  | .desc => descSuffix

def NullOrder.suffix : NullOrder → Text
  | .first => nullsFirstSuffix
  | .last => nullsLastSuffix

/-- A direction is cut with the space in front of it. -/
private theorem suffix_direction (d : Direction) : d.suffix = ' ' :: d.word := by
  cases d <;> decide

/-- So is a null ordering, of two words. -/
private theorem suffix_order (o : NullOrder) :
    o.suffix = ' ' :: nullsWord ++ (' ' :: o.word) := by
  cases o <;> decide

/-- A direction in any letter case, with its space. -/
theorem Direction.isCaseOf_suffix {d : Direction} {k : Text} (h : IsCaseOf d.word k) :
    IsCaseOf d.suffix (' ' :: k) := by
  rw [suffix_direction]
  exact congrArg (' ' :: ·) h

/-- A null ordering in any letter case, with its spaces. -/
theorem NullOrder.isCaseOf_suffix {o : NullOrder} {n k : Text} (hn : IsCaseOf nullsWord n)
    (h : IsCaseOf o.word k) : IsCaseOf o.suffix (' ' :: n ++ (' ' :: k)) := by
  rw [suffix_order]
  unfold IsCaseOf at *
  rw [List.map_append, List.map_cons, List.map_cons, hn, h]
  rfl

/-- A direction behind a space is recognised and cut. -/
theorem stripDirection_suffix {d : Direction} {r k : Text} (h : IsCaseOf d.word k) :
    stripDirection (r ++ ' ' :: k) = pure (r, d == .asc) := by
  have hs := Direction.isCaseOf_suffix h
  cases d with
  | asc => exact stripDirection_asc hs
  | desc => exact stripDirection_desc hs

/-- A null ordering behind a space, of two words with one between, is
recognised and cut. -/
theorem stripNulls_suffix {o : NullOrder} {r n k : Text} (hn : IsCaseOf nullsWord n)
    (h : IsCaseOf o.word k) :
    stripNulls (r ++ (' ' :: n ++ (' ' :: k))) = pure (r, some (o == .first)) := by
  have hs := NullOrder.isCaseOf_suffix hn h
  cases o with
  | first => exact stripNulls_first hs
  | last => exact stripNulls_last hs

/-- A direction in uppercase. -/
private theorem upper_direction {d : Direction} {k : Text} (h : IsCaseOf d.word k) :
    toUppercase k = d.word :=
  toUppercase_of_isCaseOf (by cases d <;> decide) h

private theorem upper_order {o : NullOrder} {k : Text} (h : IsCaseOf o.word k) :
    toUppercase k = o.word :=
  toUppercase_of_isCaseOf (by cases o <;> decide) h

private theorem upper_nulls {n : Text} (h : IsCaseOf nullsWord n) : toUppercase n = nullsWord :=
  toUppercase_of_isCaseOf (by decide) h

/-! ## separators -/

/-- A character that may stand between two tokens. -/
def IsSep (c : Char) : Prop := c = ' ' ∨ c = '\t' ∨ c = '\n'

instance (c : Char) : Decidable (IsSep c) :=
  inferInstanceAs (Decidable (c = ' ' ∨ c = '\t' ∨ c = '\n'))

/-- A non-empty run of spaces, tabs or newlines. -/
structure SepRun (w : Text) : Prop where
  ne_nil : w ≠ []
  isSep : ∀ c ∈ w, IsSep c

instance (w : Text) : Decidable (SepRun w) :=
  decidable_of_iff (w ≠ [] ∧ ∀ c ∈ w, IsSep c)
    ⟨fun h => ⟨h.1, h.2⟩, fun h => ⟨h.ne_nil, h.isSep⟩⟩

/-- The run the parser compares with ends in a space. -/
def EndsInSpace (w : Text) : Prop := w.getLast? = some ' '

instance (w : Text) : Decidable (EndsInSpace w) :=
  inferInstanceAs (Decidable (w.getLast? = some ' '))

/-- A separator is whitespace. -/
theorem IsSep.isWhitespace {c : Char} (h : IsSep c) : isWhitespace c = true := by
  rcases h with rfl | rfl | rfl <;> decide

/-- A separator is its own uppercase. -/
theorem IsSep.toUpper {c : Char} (h : IsSep c) : toUpper c = [c] := by
  rcases h with rfl | rfl | rfl <;> decide

/-- A run, split in front of its last character. -/
theorem SepRun.split {w : Text} (h : SepRun w) :
    ∃ b c, w = b ++ [c] ∧ IsSep c ∧ ∀ d ∈ b, IsSep d :=
  ⟨w.dropLast, w.getLast h.ne_nil, (List.dropLast_concat_getLast h.ne_nil).symm,
    h.isSep _ (List.getLast_mem h.ne_nil), fun d hd => h.isSep d (List.dropLast_subset w hd)⟩

/-- The last separator decides. -/
@[simp] theorem endsInSpace_append_singleton {b : Text} {c : Char} :
    EndsInSpace (b ++ [c]) ↔ c = ' ' := by
  simp [EndsInSpace]

/-! ## what a stage leaves alone

A stage does nothing to a text whose tail, in uppercase, is not nested with
any of its keywords. -/

/-- No null ordering is found in a text whose end has nothing to do with
one. -/
theorem stripNulls_of_tail {r q u : Text} (hup : toUppercase q = u)
    (h : ∀ o : NullOrder, endsWith u o.suffix = false ∧ endsWith o.suffix u = false) :
    stripNulls (r ++ q) = pure (r ++ q, none) := by
  have hnot : ∀ o : NullOrder, endsWith (toUppercase (r ++ q)) o.suffix = false := fun o => by
    rw [toUppercase_append, hup]
    exact not_endsWith_append (h o).1 (h o).2
  exact stripNulls_none (hnot .first) (hnot .last)

/-- No direction is found in a text whose end has nothing to do with one. -/
theorem stripDirection_of_tail {r q u : Text} (hup : toUppercase q = u)
    (h : ∀ d : Direction, endsWith u d.suffix = false ∧ endsWith d.suffix u = false) :
    stripDirection (r ++ q) = pure (r ++ q, true) := by
  have hnot : ∀ d : Direction, endsWith (toUppercase (r ++ q)) d.suffix = false := fun d => by
    rw [toUppercase_append, hup]
    exact not_endsWith_append (h d).1 (h d).2
  exact stripDirection_none (hnot .asc) (hnot .desc)

/-- Text that ends in a direction has no null ordering to strip. -/
theorem stripNulls_of_direction {d : Direction} {r k : Text} (h : IsCaseOf d.word k) :
    stripNulls (r ++ k) = pure (r ++ k, none) :=
  stripNulls_of_tail (upper_direction h) (by cases d <;> intro o <;> cases o <;> decide)

/-- Text that ends in a null ordering has no direction to strip. -/
theorem stripDirection_of_order {o : NullOrder} {r k : Text} (h : IsCaseOf o.word k) :
    stripDirection (r ++ k) = pure (r ++ k, true) :=
  stripDirection_of_tail (upper_order h) (by cases o <;> intro d <;> cases d <;> decide)

/-- Text that ends in a blank has no direction to strip. -/
theorem stripDirection_of_blank {r : Text} {c : Char} (hc : IsSep c) :
    stripDirection (r ++ [c]) = pure (r ++ [c], true) := by
  refine stripDirection_of_tail (u := [c]) (by rw [toUppercase_cons, hc.toUpper]; rfl) ?_
  rcases hc with rfl | rfl | rfl <;> intro d <;> cases d <;> decide

/-- A direction is recognised only behind a space. -/
theorem stripDirection_of_sep {d : Direction} {r k : Text} {c : Char} (hc : IsSep c)
    (hne : c ≠ ' ') (h : IsCaseOf d.word k) :
    stripDirection (r ++ c :: k) = pure (r ++ c :: k, true) := by
  refine stripDirection_of_tail (u := c :: d.word)
    (by rw [toUppercase_cons, hc.toUpper, upper_direction h]; rfl) ?_
  rcases hc with rfl | rfl | rfl
  · contradiction
  all_goals cases d <;> intro d' <;> cases d' <;> decide

/-- `FIRST` and `LAST` are recognised only behind a space. -/
theorem stripNulls_of_order_sep {o : NullOrder} {r k : Text} {c : Char} (hc : IsSep c)
    (hne : c ≠ ' ') (h : IsCaseOf o.word k) :
    stripNulls (r ++ c :: k) = pure (r ++ c :: k, none) := by
  refine stripNulls_of_tail (u := c :: o.word)
    (by rw [toUppercase_cons, hc.toUpper, upper_order h]; rfl) ?_
  rcases hc with rfl | rfl | rfl
  · contradiction
  all_goals cases o <;> intro o' <;> cases o' <;> decide

/-- ... and only behind one blank. -/
theorem stripNulls_of_order_two {o : NullOrder} {r k : Text} {c : Char} (hc : IsSep c)
    (h : IsCaseOf o.word k) :
    stripNulls (r ++ c :: ' ' :: k) = pure (r ++ c :: ' ' :: k, none) := by
  have hsp : toUpper ' ' = [' '] := by decide
  refine stripNulls_of_tail (u := c :: ' ' :: o.word)
    (by rw [toUppercase_cons, toUppercase_cons, hc.toUpper, hsp, upper_order h]; rfl) ?_
  rcases hc with rfl | rfl | rfl <;> cases o <;> intro o' <;> cases o' <;> decide

/-- `NULLS` is recognised only behind a space. -/
theorem stripNulls_of_nulls_sep {o : NullOrder} {r n k : Text} {c : Char} (hc : IsSep c)
    (hne : c ≠ ' ') (hn : IsCaseOf nullsWord n) (h : IsCaseOf o.word k) :
    stripNulls (r ++ c :: (n ++ ' ' :: k)) = pure (r ++ c :: (n ++ ' ' :: k), none) := by
  have hsp : toUpper ' ' = [' '] := by decide
  refine stripNulls_of_tail (u := c :: (nullsWord ++ ' ' :: o.word)) (by
    rw [toUppercase_cons, toUppercase_append, toUppercase_cons, hc.toUpper, hsp, upper_nulls hn,
      upper_order h]
    rfl) ?_
  rcases hc with rfl | rfl | rfl
  · contradiction
  all_goals cases o <;> intro o' <;> cases o' <;> decide

/-! ## the blanks the parser accepts -/

namespace Typing

/-- The blanks between the tokens are runs of separators. -/
structure Separated (t : Typing) : Prop where
  beforeDirection : SepRun t.beforeDirection
  beforeNulls : SepRun t.beforeNulls
  beforeOrder : SepRun t.beforeOrder

/-- The blanks the parser recognises the keywords of a key behind.  The run
in front of a direction may be anything that ends in a space; so may the
run in front of `NULLS` when there is no direction, but behind a direction
it must be one space, for the direction is looked for at the very end of
what is left; the run in front of `FIRST` or `LAST` must be one space. -/
def Spaced (t : Typing) (k : KeySpec) : Prop :=
  match k.direction, k.nulls with
  | none, none => True
  | some _, none => EndsInSpace t.beforeDirection
  | none, some _ => EndsInSpace t.beforeNulls ∧ t.beforeOrder = [' ']
  | some _, some _ =>
      EndsInSpace t.beforeDirection ∧ t.beforeNulls = [' '] ∧ t.beforeOrder = [' ']

end Typing

/-! ## a written key is trimmed -/

/-- Uppercasing an ASCII letter does not touch whitespace. -/
private theorem toUpper_of_isWhitespace {c : Char} (h : isWhitespace c = true) :
    c.toUpper = c := by
  have hc : ¬ (c.val ≥ 97 ∧ c.val ≤ 122) := fun ⟨h1, h2⟩ => by
    have h1' : 97 ≤ c.toNat := UInt32.le_iff_toNat_le.mp h1
    have h2' : c.toNat ≤ 122 := UInt32.le_iff_toNat_le.mp h2
    simp only [isWhitespace, Bool.or_eq_true, Bool.and_eq_true, decide_eq_true_eq, beq_iff_eq] at h
    omega
  exact dif_neg hc

/-- A keyword ends in a letter, in any letter case. -/
theorem last_of_isCaseOf {key k : Text} (hkey : ∀ c ∈ key, isWhitespace c = false)
    (h : IsCaseOf key k) : ∀ c ∈ k.getLast?, isWhitespace c = false := by
  intro c hc
  cases hw : isWhitespace c with
  | false => rfl
  | true =>
      have hmem : c ∈ key := by
        rw [← h, ← toUpper_of_isWhitespace hw]
        exact List.mem_map_of_mem (List.mem_of_getLast? hc)
      rw [hkey c hmem] at hw
      contradiction

/-- A written direction is not empty. -/
private theorem direction_ne_nil {d : Direction} {k : Text} (h : IsCaseOf d.word k) : k ≠ [] := by
  rintro rfl
  cases d <;> cases h

private theorem order_ne_nil {o : NullOrder} {k : Text} (h : IsCaseOf o.word k) : k ≠ [] := by
  rintro rfl
  cases o <;> cases h

/-- A written direction does not end in a blank. -/
private theorem last_direction {d : Direction} {k : Text} (h : IsCaseOf d.word k) :
    ∀ c ∈ k.getLast?, isWhitespace c = false :=
  last_of_isCaseOf (by cases d <;> decide) h

private theorem last_order {o : NullOrder} {k : Text} (h : IsCaseOf o.word k) :
    ∀ c ∈ k.getLast?, isWhitespace c = false :=
  last_of_isCaseOf (by cases o <;> decide) h

/-- A trimmed text with a keyword behind it is trimmed. -/
theorem Trimmed.append_word {s q k : Text} (hs : Trimmed s) (hk : k ≠ [])
    (hlast : ∀ c ∈ k.getLast?, isWhitespace c = false) : Trimmed (s ++ (q ++ k)) := by
  refine hs.append (by simp [hk]) ?_
  rw [getLast?_append_right hk]
  exact hlast

section Written

variable {k : KeySpec} {t : Typing}

/-- A key is trimmed up to its direction. -/
theorem trimmed_directionPart {s : Text} (hs : Trimmed s) (ht : t.Spells k) :
    Trimmed (s ++ t.directionPart k.direction) := by
  cases hd : k.direction with
  | none => simpa [Typing.directionPart] using hs
  | some d =>
      have hw := ht.direction d hd
      exact hs.append_word (direction_ne_nil hw) (last_direction hw)

/-- A written key is trimmed. -/
theorem trimmed_written (hk : Trimmed k.expr) (ht : t.Spells k) : Trimmed (k.written t) := by
  have hd := trimmed_directionPart hk ht
  cases hn : k.nulls with
  | none => simpa [KeySpec.written, Typing.nullsPart, hn] using hd
  | some o =>
      have hw := ht.order o hn
      rw [KeySpec.written, hn]
      exact hd.append_word (order_ne_nil hw) (last_order hw)

/-! ## the round trip -/

/-- The first stage on text that ends in a recognised null ordering. -/
theorem stripNulls_spaced {o : NullOrder} {r b : Text} (ht : t.Spells k) (ho : k.nulls = some o)
    (hb : t.beforeNulls = b ++ [' ']) (hs : t.beforeOrder = [' ']) :
    stripNulls (r ++ t.nullsPart k.nulls) = pure (r ++ b, some (o == .first)) := by
  have h := stripNulls_suffix (r := r ++ b) ht.nulls (ht.order o ho)
  simpa [ho, Typing.nullsPart, hb, hs] using h

/-- The second stage on text that ends in a recognised direction. -/
theorem stripDirection_spaced {d : Direction} {r b : Text} (ht : t.Spells k)
    (hd : k.direction = some d) (hb : t.beforeDirection = b ++ [' ']) :
    stripDirection (r ++ t.directionPart k.direction) = pure (r ++ b, d == .asc) := by
  have h := stripDirection_suffix (r := r ++ b) (ht.direction d hd)
  simpa [hd, Typing.directionPart, hb] using h

/-- The second stage on an expression with nothing but blanks behind it. -/
theorem stripDirection_seps {s b : Text} (hb : ∀ c ∈ b, IsSep c)
    (ha : endsWith (toUppercase s) ascSuffix = false)
    (hd : endsWith (toUppercase s) descSuffix = false) :
    stripDirection (s ++ b) = pure (s ++ b, true) := by
  by_cases hn : b = []
  · rw [hn, List.append_nil]
    exact stripDirection_none ha hd
  · obtain ⟨b', c, rfl, hc, -⟩ := SepRun.split ⟨hn, hb⟩
    rw [← List.append_assoc]
    exact stripDirection_of_blank hc

/-- Separators are blank. -/
private theorem blank_of_seps {b : Text} (hb : ∀ c ∈ b, IsSep c) : Blank b := fun c hc =>
  (hb c hc).isWhitespace

/-- A null ordering that is found decides. -/
private theorem nullsFirst_some {o : NullOrder} (ho : k.nulls = some o) (x : Bool) :
    (some (o == .first)).getD x = k.nullsFirst := by
  rw [KeySpec.nullsFirst, ho]
  cases o <;> rfl

/-- A direction that is found decides. -/
private theorem asc_some {d : Direction} (hd : k.direction = some d) : (d == .asc) = k.asc := by
  rw [KeySpec.asc, hd]
  cases d <;> rfl

/-- Ascending is the default. -/
private theorem asc_none (hd : k.direction = none) : k.asc = true := by
  rw [KeySpec.asc, hd]
  rfl

/-- What the first stage leaves of a written key: the expression, its
direction and a run of blanks, which is empty behind a direction. -/
theorem stripNulls_written (hu : k.Unambiguous) (ht : t.Spells k) (hsep : t.Separated)
    (hs : t.Spaced k) :
    ∃ b nulls, stripNulls (k.written t) = pure (k.expr ++ t.directionPart k.direction ++ b, nulls) ∧
      (∀ c ∈ b, IsSep c) ∧ (k.direction ≠ none → b = []) ∧
      ∀ asc, k.asc = asc → nulls.getD (!asc) = k.nullsFirst := by
  cases ho : k.nulls with
  | none =>
      refine ⟨[], none, ?_, by simp, fun _ => rfl, fun asc ha => ?_⟩
      · rw [KeySpec.written, ho, List.append_nil]
        cases hd : k.direction with
        | none =>
            obtain ⟨hf, hl⟩ := hu.nulls hd ho
            simpa [Typing.directionPart, Typing.nullsPart] using stripNulls_none hf hl
        | some d =>
            simpa [Typing.directionPart, Typing.nullsPart] using
              stripNulls_of_direction (r := k.expr ++ t.beforeDirection) (ht.direction d hd)
      · rw [KeySpec.nullsFirst, ho, ha]
        rfl
  | some o =>
      obtain ⟨b, c, hb, -, hbs⟩ := hsep.beforeNulls.split
      have hsp : EndsInSpace t.beforeNulls ∧ t.beforeOrder = [' '] ∧
          (k.direction ≠ none → b = []) := by
        cases hd : k.direction with
        | none =>
            simp only [Typing.Spaced, hd, ho] at hs
            exact ⟨hs.1, hs.2, fun h => absurd rfl h⟩
        | some d =>
            simp only [Typing.Spaced, hd, ho] at hs
            refine ⟨by rw [hs.2.1]; rfl, hs.2.2, fun _ => ?_⟩
            have hlen := congrArg List.length (hb.symm.trans hs.2.1)
            exact List.eq_nil_of_length_eq_zero (by simpa using hlen)
      rw [hb, endsInSpace_append_singleton] at hsp
      obtain ⟨rfl, horder, hnil⟩ := hsp
      refine ⟨b, some (o == .first), ?_, hbs, hnil, fun asc _ => nullsFirst_some ho _⟩
      rw [KeySpec.written, ho, ← ho]
      exact stripNulls_spaced ht ho hb horder

/-- **Sort keys round-trip**: a key typed with blanks the parser accepts,
and any whitespace around it, is parsed back to itself. -/
theorem sortKey_written {w w' : Text} (hk : Trimmed k.expr) (hu : k.Unambiguous)
    (ht : t.Spells k) (hsep : t.Separated) (hs : t.Spaced k) (hw : Blank w) (hw' : Blank w') :
    sortKey (w ++ k.written t ++ w') = pure (k.sortExpr k.expr) := by
  have htrim : trim (w ++ k.written t ++ w') = k.written t :=
    (trimmed_written hk ht).trim_surround hw hw'
  obtain ⟨b, nulls, hn, hb, hbs, hnulls⟩ := stripNulls_written hu ht hsep hs
  rw [← htrim] at hn
  cases hd : k.direction with
  | none =>
      obtain ⟨ha, hd'⟩ := hu.direction hd
      rw [hd, Typing.directionPart, List.append_nil] at hn
      rw [sortKey_eq hn (stripDirection_seps hb ha hd'), hk.trim_append (blank_of_seps hb),
        hnulls true (asc_none hd), KeySpec.sortExpr, asc_none hd]
  | some d =>
      have hsp : EndsInSpace t.beforeDirection := by
        cases ho : k.nulls <;> simp only [Typing.Spaced, hd, ho] at hs
        · exact hs
        · exact hs.1
      obtain ⟨b₁, c₁, hb₁, -, hsep₁⟩ := hsep.beforeDirection.split
      rw [hb₁, endsInSpace_append_singleton] at hsp
      obtain rfl := hsp
      rw [hbs (by simp [hd]), List.append_nil] at hn
      rw [sortKey_eq hn (stripDirection_spaced ht hd hb₁), hk.trim_append (blank_of_seps hsep₁),
        hnulls _ (asc_some hd).symm, KeySpec.sortExpr, asc_some hd]

/-! ## lost keys -/

/-- The first stage misses a null ordering whose blanks are not the
parser's. -/
theorem stripNulls_not_spaced {o : NullOrder} {r : Text} (ht : t.Spells k)
    (hsep : t.Separated) (ho : k.nulls = some o)
    (hs : ¬ (EndsInSpace t.beforeNulls ∧ t.beforeOrder = [' '])) :
    stripNulls (r ++ t.nullsPart k.nulls) = pure (r ++ t.nullsPart k.nulls, none) := by
  have hw := ht.order o ho
  obtain ⟨b₂, c₂, hb₂, hc₂, -⟩ := hsep.beforeNulls.split
  obtain ⟨b₃, c₃, hb₃, hc₃, hsep₃⟩ := hsep.beforeOrder.split
  rw [ho, Typing.nullsPart, hb₃, hb₂]
  rw [hb₂, hb₃, endsInSpace_append_singleton] at hs
  by_cases h₃ : c₃ = ' '
  · subst h₃
    by_cases hnil : b₃ = []
    · -- one space in front of the order: the blank in front of `NULLS` is at fault
      subst hnil
      have h₂ : c₂ ≠ ' ' := fun h => hs ⟨h, rfl⟩
      simpa using stripNulls_of_nulls_sep (r := r ++ b₂) hc₂ h₂ ht.nulls hw
    · obtain ⟨b', c', rfl, hc', -⟩ := SepRun.split ⟨hnil, hsep₃⟩
      simpa using stripNulls_of_order_two (r := r ++ (b₂ ++ c₂ :: (t.nulls ++ b'))) hc' hw
  · simpa using stripNulls_of_order_sep (r := r ++ (b₂ ++ c₂ :: (t.nulls ++ b₃))) hc₃ h₃ hw

/-- The second stage misses a direction whose last blank is not a space. -/
theorem stripDirection_not_spaced {d : Direction} {r : Text} (ht : t.Spells k)
    (hsep : t.Separated) (hd : k.direction = some d) (hs : ¬ EndsInSpace t.beforeDirection) :
    stripDirection (r ++ t.directionPart k.direction) =
      pure (r ++ t.directionPart k.direction, true) := by
  obtain ⟨b, c, hb, hc, -⟩ := hsep.beforeDirection.split
  rw [hb, endsInSpace_append_singleton] at hs
  rw [hd, Typing.directionPart, hb]
  simpa using stripDirection_of_sep (r := r ++ b) hc hs (ht.direction d hd)

/-- A text in which neither stage finds anything is an ascending key. -/
theorem sortKey_whole {s : Text} (hs : Trimmed s) (hn : stripNulls s = pure (s, none))
    (hd : stripDirection s = pure (s, true)) : sortKey s = pure ⟨s, true, false⟩ := by
  rw [← hs.trim_eq] at hn
  rw [sortKey_eq (t := s) (hn.trans (by rw [hs.trim_eq])) hd, hs.trim_eq]
  rfl

/-- A text with something behind it is not that text. -/
private theorem append_ne_self {s q : Text} (hq : q ≠ []) : s ++ q ≠ s := fun h =>
  hq (List.append_right_eq_self.mp h)

/-- The key is parsed, but not as what was meant: the expression text is
another one. -/
def Lost (k : KeySpec) (t : Typing) : Prop :=
  ∃ key, sortKey (k.written t) = pure key ∧ key.expr ≠ k.expr

/-- The part of a direction is not empty. -/
private theorem directionPart_ne_nil {d : Direction} (ht : t.Spells k) (hd : k.direction = some d) :
    t.directionPart k.direction ≠ [] := by
  simp [hd, Typing.directionPart, direction_ne_nil (ht.direction d hd)]

/-- A direction at the end. -/
theorem lost_direction {d : Direction} (hk : Trimmed k.expr) (ht : t.Spells k)
    (hsep : t.Separated) (ho : k.nulls = none) (hd : k.direction = some d)
    (hs : ¬ EndsInSpace t.beforeDirection) : Lost k t := by
  have heq : k.written t = k.expr ++ t.directionPart k.direction := by
    rw [KeySpec.written, ho, Typing.nullsPart, List.append_nil]
  have hn : stripNulls (k.written t) = pure (k.written t, none) := by
    rw [heq, hd, Typing.directionPart, ← List.append_assoc]
    exact stripNulls_of_direction (ht.direction d hd)
  have hwhole : stripDirection (k.written t) = pure (k.written t, true) := by
    rw [heq]
    exact stripDirection_not_spaced ht hsep hd hs
  exact ⟨_, sortKey_whole (trimmed_written hk ht) hn hwhole,
    heq ▸ append_ne_self (directionPart_ne_nil ht hd)⟩

/-- A null ordering at the end. -/
theorem lost_order {o : NullOrder} (hk : Trimmed k.expr) (ht : t.Spells k) (hsep : t.Separated)
    (ho : k.nulls = some o) (hs : ¬ (EndsInSpace t.beforeNulls ∧ t.beforeOrder = [' '])) :
    Lost k t := by
  have hn : stripNulls (k.written t) = pure (k.written t, none) :=
    stripNulls_not_spaced ht hsep ho hs
  have hwhole : stripDirection (k.written t) = pure (k.written t, true) := by
    rw [KeySpec.written, ho, Typing.nullsPart, ← List.append_assoc]
    exact stripDirection_of_order (ht.order o ho)
  refine ⟨_, sortKey_whole (trimmed_written hk ht) hn hwhole, ?_⟩
  rw [KeySpec.written, List.append_assoc]
  exact append_ne_self (by simp [ho, Typing.nullsPart, order_ne_nil (ht.order o ho)])

/-- A direction in front of a null ordering: the first stage cuts off the
null ordering, the second one misses the direction. -/
theorem lost_direction_before_order {d : Direction} {o : NullOrder} (hk : Trimmed k.expr)
    (ht : t.Spells k) (hsep : t.Separated) (hd : k.direction = some d) (ho : k.nulls = some o)
    (hsp : EndsInSpace t.beforeNulls ∧ t.beforeOrder = [' ']) (hs : ¬ t.Spaced k) : Lost k t := by
  obtain ⟨b, c, hb, hc, hbs⟩ := hsep.beforeNulls.split
  obtain ⟨hspace, horder⟩ := hsp
  rw [hb, endsInSpace_append_singleton] at hspace
  subst hspace
  have hn : stripNulls (trim (k.written t)) =
      pure (k.expr ++ t.directionPart k.direction ++ b, some (o == .first)) := by
    rw [(trimmed_written hk ht).trim_eq]
    exact stripNulls_spaced ht ho hb horder
  have hwhole : stripDirection (k.expr ++ t.directionPart k.direction ++ b) =
      pure (k.expr ++ t.directionPart k.direction ++ b, true) := by
    by_cases hnil : b = []
    · have hne : ¬ EndsInSpace t.beforeDirection := fun h => hs (by
        simp only [Typing.Spaced, hd, ho]
        exact ⟨h, by rw [hb, hnil]; rfl, horder⟩)
      rw [hnil, List.append_nil]
      exact stripDirection_not_spaced ht hsep hd hne
    · obtain ⟨b', c, rfl, hc, -⟩ := SepRun.split ⟨hnil, hbs⟩
      rw [← List.append_assoc]
      exact stripDirection_of_blank hc
  have htrim : trim (k.expr ++ t.directionPart k.direction ++ b) =
      k.expr ++ t.directionPart k.direction :=
    (trimmed_directionPart hk ht).trim_append (blank_of_seps hbs)
  refine ⟨_, sortKey_eq hn hwhole, ?_⟩
  rw [htrim]
  exact append_ne_self (directionPart_ne_nil ht hd)

/-- **Any other blank loses the key.** -/
theorem lost_of_not_spaced (hk : Trimmed k.expr) (ht : t.Spells k) (hsep : t.Separated)
    (hs : ¬ t.Spaced k) : Lost k t := by
  cases ho : k.nulls with
  | none =>
      cases hd : k.direction with
      | none => simp [Typing.Spaced, hd, ho] at hs
      | some d => exact lost_direction hk ht hsep ho hd (by simpa [Typing.Spaced, hd, ho] using hs)
  | some o =>
      by_cases hsp : EndsInSpace t.beforeNulls ∧ t.beforeOrder = [' ']
      · cases hd : k.direction with
        | none => exact absurd hsp (by simpa [Typing.Spaced, hd, ho] using hs)
        | some d => exact lost_direction_before_order hk ht hsep hd ho hsp hs
      · exact lost_order hk ht hsep ho hsp

end Written

/-! ## what the engine is handed -/

/-- The four suffixes the parser knows. -/
def keywordSuffixes : List Text := [ascSuffix, descSuffix, nullsFirstSuffix, nullsLastSuffix]

/-- The text is parsed as this key: whatever the expression parser is, it is
asked for exactly the key's expression, and its answer comes back with the
key's flags. -/
def Recognised (s : Text) (k : KeySpec) : Prop :=
  ∀ (Expr : Type) (parse : Text → Outcome Expr),
    parseSortExpr parse s = (do pure (k.sortExpr (← parse k.expr)))

/-- A key that is parsed as it was meant is recognised. -/
theorem recognised_of_sortKey {s : Text} {k : KeySpec}
    (h : sortKey s = pure (k.sortExpr k.expr)) : Recognised s k := fun _ _ => parseSortExpr_eq h

/-- A parser that echoes its text tells one expression text from another. -/
theorem not_recognised {s : Text} {k : KeySpec} {key : SortExpr Text} (h : sortKey s = pure key)
    (hne : key.expr ≠ k.expr) : ¬ Recognised s k := by
  intro hr
  have he := hr Text pure
  rw [parseSortExpr_eq h] at he
  simp only [pure_bind] at he
  exact hne (congrArg SortExpr.expr (Except.ok.inj he))

/-- **Which blanks are insignificant**: an unambiguous key typed with any
runs of spaces, tabs and newlines is recognised exactly when the runs are
`Spaced`. -/
theorem recognised_iff_spaced (k : KeySpec) (t : Typing) (hk : Trimmed k.expr)
    (hkw : ∀ suffix ∈ keywordSuffixes, endsWith (toUppercase k.expr) suffix = false)
    (ht : t.Spells k) (hsep : t.Separated) : Recognised (k.written t) k ↔ t.Spaced k := by
  have hu : k.Unambiguous :=
    ⟨fun _ => ⟨hkw _ (by simp [keywordSuffixes]), hkw _ (by simp [keywordSuffixes])⟩,
      fun _ _ => ⟨hkw _ (by simp [keywordSuffixes]), hkw _ (by simp [keywordSuffixes])⟩⟩
  constructor
  · intro hr
    by_cases hs : t.Spaced k
    · exact hs
    · obtain ⟨key, hkey, hne⟩ := lost_of_not_spaced hk ht hsep hs
      exact absurd hr (not_recognised hkey hne)
  · intro hs
    have hnil : Blank [] := fun _ hc => absurd hc List.not_mem_nil
    have h := sortKey_written hk hu ht hsep hs hnil hnil
    rw [List.nil_append, List.append_nil] at h
    exact recognised_of_sortKey h

/-- `a DESC NULLS LAST` -/
private def singleSpaced : Typing :=
  ⟨" ".toList, "DESC".toList, " ".toList, "NULLS".toList, " ".toList, "LAST".toList⟩

theorem recognised_single_spaced :
    Recognised "a DESC NULLS LAST".toList ⟨"a".toList, some .desc, some .last⟩ :=
  (recognised_iff_spaced ⟨"a".toList, some .desc, some .last⟩ singleSpaced (by decide) (by decide)
    ⟨by decide, by decide, by decide⟩ ⟨by decide, by decide, by decide⟩).mpr
      ⟨by decide, by decide, by decide⟩

/-- A second blank in front of `NULLS` turns a descending key on `a` into an
ascending one on `a DESC`. -/
theorem extra_blank_changes_key :
    ¬ ∀ (k : KeySpec) (t : Typing), Trimmed k.expr →
      (∀ suffix ∈ keywordSuffixes, endsWith (toUppercase k.expr) suffix = false) →
      t.Spells k → t.Separated → Recognised (k.written t) k := by
  intro h
  have hr := h ⟨"a".toList, some .desc, some .last⟩ { singleSpaced with beforeNulls := "  ".toList }
    (by decide) (by decide) ⟨by decide, by decide, by decide⟩ ⟨by decide, by decide, by decide⟩
  have hkey : sortKey "a DESC  NULLS LAST".toList = pure ⟨"a DESC".toList, true, false⟩ := rfl
  exact not_recognised hkey (by decide) hr

end DataFusionPanama
