import DataFusionPanama.Base.Upper
import DataFusionPanama.SortKeys

/-!
# DataFusionPanama.SortText

What `parse_sort_expr` does to any text at all.  A stage looks for its
keywords on the uppercase of the text and cuts the text by the length of the
keyword, so what stands there may be longer than what is cut off: text like
`NULLſ FIRſT` leaves its first bytes behind.

`sortKey_parts` accounts for every character: the trimmed text is an
expression, a direction and a null ordering, the latter two in uppercase
only; what the engine is handed is the expression and what the null ordering
left over.  (What a direction leaves over is a blank, which is trimmed, and
behind what a null ordering leaves over no direction is found.)
-/

namespace DataFusionPanama

/-! ## the keywords -/

/-- A direction is a keyword. -/
theorem Direction.keyword (d : Direction) : Keyword d.suffix := by
  cases d <;> decide

/-- A null ordering is a keyword. -/
theorem NullOrder.keyword (o : NullOrder) : Keyword o.suffix := by
  cases o <;> decide

/-- Whatever is in front of it, text that is the keyword in uppercase is cut
on a character boundary. -/
theorem sliceTo_keyword {key k : Text} (hkey : Keyword key) (hk : toUppercase k = key) (x : Text) :
    len key ≤ len (x ++ k) ∧
      sliceTo (x ++ k) (len (x ++ k) - len key) = some (x ++ leftover key k) := by
  obtain ⟨hle, hlen, -, -⟩ := hkey.leftover_spec hk
  have hk' : x ++ k = (x ++ leftover key k) ++ k.drop (len k - len key) := by
    rw [List.append_assoc, leftover, List.take_append_drop]
  have hsub : len (x ++ k) - len key = len (x ++ leftover key k) := by
    rw [len_append, len_append, hlen]
    omega
  refine ⟨by rw [len_append]; omega, ?_⟩
  rw [hsub]
  conv => lhs; rw [hk']
  exact sliceTo_append _ _

/-- A cut by the length of a keyword leaves what its letters have in excess.
-/
theorem cutSuffix_keyword {key k : Text} (hkey : Keyword key) (hk : toUppercase k = key)
    (x : Text) : cutSuffix (x ++ k) key = pure (x ++ leftover key k) := by
  obtain ⟨hle, hslice⟩ := sliceTo_keyword hkey hk x
  rw [cutSuffix, if_neg (Nat.not_lt.mpr hle), hslice]

/-! ## the two stages -/

section Stages

variable {α : Type} (suffix : α → Text)

/-- What an optional keyword is read from: nothing, or text that is the
keyword in uppercase. -/
def ReadFrom : Option α → Text → Prop
  | none, k => k = []
  | some a, k => toUppercase k = suffix a

/-- What is left of it in the text. -/
def leftOf : Option α → Text → Text
  | none, _ => []
  | some a, k => leftover (suffix a) k

/-- A stage finds a keyword, or nothing and there is none. -/
structure Finds (t x k : Text) (a : Option α) : Prop where
  eq : t = x ++ k
  readFrom : ReadFrom suffix a k
  missed : a = none → ∀ b, endsWith (toUppercase t) (suffix b) = false

end Stages

/-- A stage that finds a keyword cuts it. -/
theorem stage_some {α : Type} {suffix : α → Text} {a : α} (hkey : Keyword (suffix a)) {t : Text}
    (h : endsWith (toUppercase t) (suffix a) = true) :
    ∃ x k, Finds suffix t x k (some a) ∧
      cutSuffix t (suffix a) = pure (x ++ leftOf suffix (some a) k) := by
  obtain ⟨x, k, rfl, hk⟩ := hkey.endsWith_iff.mp h
  exact ⟨x, k, ⟨rfl, hk, by simp⟩, cutSuffix_keyword hkey hk x⟩

/-- The first stage. -/
theorem stripNulls_spec (t : Text) : ∃ x k o, Finds NullOrder.suffix t x k o ∧
    stripNulls t = pure (x ++ leftOf NullOrder.suffix o k, o.map (· == .first)) := by
  by_cases hf : endsWith (toUppercase t) nullsFirstSuffix = true
  · obtain ⟨x, k, hs, hcut⟩ := stage_some NullOrder.first.keyword hf
    refine ⟨x, k, some .first, hs, ?_⟩
    rw [NullOrder.suffix] at hcut
    rw [stripNulls, if_pos hf, hcut]
    rfl
  · by_cases hl : endsWith (toUppercase t) nullsLastSuffix = true
    · obtain ⟨x, k, hs, hcut⟩ := stage_some NullOrder.last.keyword hl
      refine ⟨x, k, some .last, hs, ?_⟩
      rw [NullOrder.suffix] at hcut
      rw [stripNulls, if_neg hf, if_pos hl, hcut]
      rfl
    · have hf' := Bool.eq_false_iff.mpr hf
      have hl' := Bool.eq_false_iff.mpr hl
      refine ⟨t, [], none, ⟨by simp, rfl, fun _ o => by cases o <;> assumption⟩, ?_⟩
      rw [stripNulls_none hf' hl', leftOf, List.append_nil]
      rfl

/-- The second stage. -/
theorem stripDirection_spec (t : Text) : ∃ x k d, Finds Direction.suffix t x k d ∧
    stripDirection t = pure (x ++ leftOf Direction.suffix d k, d != some .desc) := by
  by_cases ha : endsWith (toUppercase t) ascSuffix = true
  · obtain ⟨x, k, hs, hcut⟩ := stage_some Direction.asc.keyword ha
    refine ⟨x, k, some .asc, hs, ?_⟩
    rw [Direction.suffix] at hcut
    rw [stripDirection, if_pos ha, hcut]
    rfl
  · by_cases hd : endsWith (toUppercase t) descSuffix = true
    · obtain ⟨x, k, hs, hcut⟩ := stage_some Direction.desc.keyword hd
      refine ⟨x, k, some .desc, hs, ?_⟩
      rw [Direction.suffix] at hcut
      rw [stripDirection, if_neg ha, if_pos hd, hcut]
      rfl
    · have ha' := Bool.eq_false_iff.mpr ha
      have hd' := Bool.eq_false_iff.mpr hd
      refine ⟨t, [], none, ⟨by simp, rfl, fun _ d => by cases d <;> assumption⟩, ?_⟩
      rw [stripDirection_none ha' hd', leftOf, List.append_nil]
      rfl

/-! ## what is left over -/

/-- A text whose uppercase is one space is one space. -/
private theorem eq_space_of_toUppercase {k : Text} (h : toUppercase k = [' ']) : k = [' '] := by
  obtain ⟨x, y, rfl, hx, hy⟩ := toUppercase_split_space (u := []) h
  rw [toUppercase_eq_nil.mp hx, toUppercase_eq_nil.mp hy]
  rfl

/-- A direction leaves nothing, or its space. -/
theorem blank_leftOf_direction {d : Option Direction} {k : Text}
    (h : ReadFrom Direction.suffix d k) : Blank (leftOf Direction.suffix d k) := by
  cases d with
  | none => exact fun c hc => absurd hc List.not_mem_nil
  | some d =>
      obtain ⟨-, -, hup, hdrift⟩ := d.keyword.leftover_spec h
      have hone : d.suffix.countP softLetter ≤ 1 := by cases d <;> decide
      have hspace : d.suffix.take 1 = [' '] := by cases d <;> rfl
      generalize len k - len d.suffix = n at hup hdrift
      obtain rfl | rfl : n = 0 ∨ n = 1 := by omega
      · rw [leftOf, toUppercase_eq_nil.mp hup]
        exact fun c hc => absurd hc List.not_mem_nil
      · rw [hspace] at hup
        rw [leftOf, eq_space_of_toUppercase hup]
        decide

/-- Behind what a null ordering leaves over there is no direction. -/
theorem stripDirection_leftOf {o : Option NullOrder} {k : Text}
    (h : ReadFrom NullOrder.suffix o k) (hne : leftOf NullOrder.suffix o k ≠ []) (x : Text) :
    stripDirection (x ++ leftOf NullOrder.suffix o k) =
      pure (x ++ leftOf NullOrder.suffix o k, true) := by
  cases o with
  | none => contradiction
  | some o =>
      obtain ⟨-, -, hup, hdrift⟩ := o.keyword.leftover_spec h
      have hfour : o.suffix.countP softLetter ≤ 4 := by cases o <;> decide
      have hpos : 0 < len k - len o.suffix := by
        refine Nat.pos_of_ne_zero fun h0 => hne ?_
        rw [h0, List.take_zero] at hup
        rw [leftOf, toUppercase_eq_nil.mp hup]
      have hnot : ∀ (d : Direction) (n : Nat), n < 5 → 0 < n →
          endsWith (o.suffix.take n) d.suffix = false ∧
            endsWith d.suffix (o.suffix.take n) = false := by
        intro d
        cases o <;> cases d <;> decide
      exact stripDirection_of_tail hup fun d => hnot d _ (by omega) hpos

/-! ## a whole text -/

/-- How the parser takes a text apart. -/
structure Parts where
  expr : Text
  direction : Option Direction
  directionText : Text
  order : Option NullOrder
  orderText : Text

namespace Parts

/-- What the null ordering leaves over. -/
def left (p : Parts) : Text := leftOf NullOrder.suffix p.order p.orderText

/-- The key the text is parsed as. -/
def key (p : Parts) : KeySpec := ⟨trim (p.expr ++ p.left), p.direction, p.order⟩

/-- The parts are those of a text: the null ordering stands at the end of the
trimmed text, the direction in front of it unless something is left over of
the null ordering. -/
structure Of (p : Parts) (s : Text) : Prop where
  order : Finds NullOrder.suffix (trim s) (p.expr ++ p.directionText) p.orderText p.order
  direction : p.left = [] → Finds Direction.suffix (p.expr ++ p.directionText) p.expr
    p.directionText p.direction
  left : p.left ≠ [] → p.direction = none ∧ p.directionText = []

/-- The parts make up the trimmed text. -/
theorem Of.eq {p : Parts} {s : Text} (h : p.Of s) :
    trim s = p.expr ++ p.directionText ++ p.orderText := h.order.eq

/-- The direction is read from its part. -/
theorem Of.directionFrom {p : Parts} {s : Text} (h : p.Of s) :
    ReadFrom Direction.suffix p.direction p.directionText := by
  by_cases hl : p.left = []
  · exact (h.direction hl).readFrom
  · obtain ⟨hd, hk⟩ := h.left hl
    rw [hd, hk]
    rfl

end Parts

/-- The flags as the parser computes them are those of the key. -/
private theorem sortExpr_eq (e x : Text) (d : Option Direction) (o : Option NullOrder) :
    (⟨x, d != some .desc, (o.map (· == .first)).getD (!(d != some .desc))⟩ : SortExpr Text) =
      (⟨e, d, o⟩ : KeySpec).sortExpr x := by
  cases o with
  | none => rfl
  | some o => cases o <;> rfl

/-- **Every text is parsed**, and its parts account for all of it. -/
theorem sortKey_parts (s : Text) :
    ∃ p : Parts, p.Of s ∧ sortKey s = pure (p.key.sortExpr p.key.expr) := by
  obtain ⟨x, n, o, hn, hnulls⟩ := stripNulls_spec (trim s)
  by_cases hl : leftOf NullOrder.suffix o n = []
  · obtain ⟨y, k, d, hd, hdir⟩ := stripDirection_spec x
    obtain rfl := hd.eq
    refine ⟨⟨y, d, k, o, n⟩, ⟨hn, fun _ => hd, fun h => absurd hl h⟩, ?_⟩
    rw [hl, List.append_nil] at hnulls
    rw [sortKey_eq hnulls hdir, trim_append_blank (blank_leftOf_direction hd.readFrom),
      sortExpr_eq, Parts.key, Parts.left, hl, List.append_nil]
  · refine ⟨⟨x, none, [], o, n⟩, ⟨by simpa using hn, fun h => absurd h hl, fun _ => ⟨rfl, rfl⟩⟩, ?_⟩
    rw [sortKey_eq hnulls (stripDirection_leftOf hn.readFrom hl x)]
    exact congrArg pure (sortExpr_eq _ _ none o)

/-- Every text has its parts, and is read by them. -/
theorem recognised_parts (s : Text) : ∃ p : Parts, p.Of s ∧ Recognised s p.key := by
  obtain ⟨p, hp, hkey⟩ := sortKey_parts s
  exact ⟨p, hp, recognised_of_sortKey hkey⟩

/-! ## no panic, no empty expression -/

/-- What a keyword is read from starts with a space. -/
theorem ReadFrom.head {α : Type} {suffix : α → Text} (hkey : ∀ a, Keyword (suffix a))
    {a : Option α} {k : Text} (h : ReadFrom suffix a k) : k = [] ∨ ∃ y, k = ' ' :: y := by
  cases a with
  | none => exact .inl h
  | some a =>
      obtain ⟨v, hv⟩ : ∃ v, suffix a = ' ' :: v := by
        have hspace := (hkey a).space
        cases hs : suffix a with
        | nil => rw [hs] at hspace; cases hspace
        | cons c v => rw [hs] at hspace; exact ⟨v, by rw [Option.some.inj hspace]⟩
      obtain ⟨x, y, rfl, hx, -⟩ := toUppercase_split_space (u := []) ((h : _ = _).trans hv)
      exact .inr ⟨y, by rw [toUppercase_eq_nil.mp hx]; rfl⟩

/-- The expression of a text with something in it starts like the text. -/
theorem Parts.Of.solid_expr {p : Parts} {s : Text} (h : p.Of s) (hs : ¬ Blank s) :
    solid p.expr ≠ 0 := by
  have hne : trim s ≠ [] := fun h0 => hs (solid_eq_zero.mp (by rw [← solid_trim, h0]; rfl))
  have hhead := (trimmed_trim hne).head
  rw [h.eq] at hne hhead
  cases hx : p.expr with
  | cons c x =>
      have hc : isWhitespace c = false := hhead c (by simp [hx])
      simp [solid, hc]
  | nil =>
      -- without an expression the text would start with the space of a keyword
      exfalso
      rw [hx, List.nil_append] at hne hhead
      rcases h.directionFrom.head Direction.keyword with hd | ⟨y, hd⟩
      · rcases h.order.readFrom.head NullOrder.keyword with ho | ⟨y, ho⟩
        · exact hne (by rw [hd, ho]; rfl)
        · have := hhead ' ' (by simp [hd, ho])
          contradiction
      · have := hhead ' ' (by simp [hd])
        contradiction

/-- **`parse_sort_expr` does not panic**: wherever a keyword is found in
uppercase, the byte index it is cut at is not negative and lies on a character
boundary; every text is parsed as some key, and unless it is blank its
expression is not empty. -/
theorem sort_cuts_safe (s : Text) :
    (∀ rest, ∀ suffix ∈ keywordSuffixes, endsWith (toUppercase rest) suffix = true →
      len suffix ≤ len rest ∧ (sliceTo rest (len rest - len suffix)).isSome) ∧
    ∃ key : KeySpec, Recognised s key ∧ ((∃ c ∈ s, isWhitespace c = false) → key.expr ≠ []) := by
  constructor
  · intro rest suffix hmem hends
    have hkey : Keyword suffix := by
      have hall : ∀ suffix ∈ keywordSuffixes, Keyword suffix := by decide
      exact hall suffix hmem
    obtain ⟨x, k, rfl, hk⟩ := hkey.endsWith_iff.mp hends
    obtain ⟨hle, hslice⟩ := sliceTo_keyword hkey hk x
    exact ⟨hle, by rw [hslice]; rfl⟩
  · obtain ⟨p, hp, hrec⟩ := recognised_parts s
    refine ⟨p.key, hrec, fun ⟨c, hc, hw⟩ hnil => ?_⟩
    have hblank : ¬ Blank s := fun h => by
      rw [h c hc] at hw
      contradiction
    have hzero : solid p.key.expr = 0 := by rw [hnil, solid_nil]
    rw [Parts.key, solid_trim, solid_append] at hzero
    exact hp.solid_expr hblank (by omega)

end DataFusionPanama
