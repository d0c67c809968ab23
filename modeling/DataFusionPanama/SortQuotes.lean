import DataFusionPanama.Base.Quote
import DataFusionPanama.SortText

/-!
# DataFusionPanama.SortQuotes

Keywords inside quotes are not sort options.  The parser knows nothing of
quotes, but what it cuts off the end of a text reads as a keyword, and there
is no quote in a keyword: so in a text with balanced quotes everything that
is cut off, and everything the flags are read from, lies outside the quoted
identifiers and literals, and these reach the engine as they are.
-/

namespace DataFusionPanama

open Quote

/-- The quotes of SQL: `'` and `"`. -/
def sqlQuote (c : Char) : Bool := c.toNat == 0x27 || c.toNat == 0x22

/-! ## keywords and blanks are quote-free -/

/-- Blanks are plain. -/
theorem plain_of_blank {s : Text} (h : Blank s) : Plain sqlQuote s := by
  intro c hc
  have hw := h c hc
  simp only [isWhitespace, Bool.or_eq_true, Bool.and_eq_true, decide_eq_true_eq, beq_iff_eq] at hw
  simp only [sqlQuote, Bool.or_eq_false_iff, beq_eq_false_iff_ne]
  omega

/-- Quotes have no case. -/
theorem toUpper_sqlQuote {c : Char} (h : sqlQuote c = true) : toUpper c = [c] := by
  have hn : c.toNat = 0x27 ∨ c.toNat = 0x22 := by simpa [sqlQuote] using h
  rw [← Char.ofNat_toNat c]
  rcases hn with hn | hn <;> rw [hn] <;> decide

/-- A text is quote-free when its uppercase is. -/
theorem plain_of_toUppercase {k : Text} (h : Plain sqlQuote (toUppercase k)) :
    Plain sqlQuote k := by
  intro c hc
  cases hq : sqlQuote c with
  | false => rfl
  | true =>
      have hmem : c ∈ toUppercase k :=
        List.mem_flatMap.mpr ⟨c, hc, by rw [toUpper_sqlQuote hq]; simp⟩
      rw [h c hmem] at hq
      contradiction

/-- What is read as a keyword without quotes has none itself. -/
theorem plain_of_readFrom {α : Type} {suffix : α → Text} (hkey : ∀ a, Plain sqlQuote (suffix a))
    {a : Option α} {k : Text} (h : ReadFrom suffix a k) : Plain sqlQuote k := by
  cases a with
  | none => exact (h : k = []) ▸ fun _ hc => absurd hc List.not_mem_nil
  | some a => exact plain_of_toUppercase ((h : toUppercase k = _) ▸ hkey a)

/-- There is no quote in a direction. -/
private theorem plain_direction (d : Direction) : Plain sqlQuote d.suffix := by
  unfold Plain
  cases d <;> decide

/-- There is no quote in a null ordering. -/
private theorem plain_order (o : NullOrder) : Plain sqlQuote o.suffix := by
  unfold Plain
  cases o <;> decide

/-! ## what is cut off -/

/-- Behind the expression and what is left over of the null ordering comes
nothing but keyword text. -/
theorem Parts.Of.tail {p : Parts} {s : Text} (h : p.Of s) :
    ∃ tail, trim s = p.expr ++ p.left ++ tail ∧ Plain sqlQuote tail := by
  have hd := plain_of_readFrom plain_direction h.directionFrom
  have ho := plain_of_readFrom plain_order h.order.readFrom
  by_cases hl : p.left = []
  · exact ⟨p.directionText ++ p.orderText, by rw [h.eq, hl]; simp, plain_append.mpr ⟨hd, ho⟩⟩
  · obtain ⟨-, hdir⟩ := h.left hl
    -- what is left over is the beginning of the null ordering's text
    obtain ⟨rest, hrest⟩ : ∃ rest, p.orderText = p.left ++ rest := by
      unfold Parts.left leftOf leftover
      cases p.order with
      | none => exact ⟨p.orderText, rfl⟩
      | some o => exact ⟨_, (List.take_append_drop _ p.orderText).symm⟩
    refine ⟨rest, by rw [h.eq, hdir, hrest]; simp, ?_⟩
    rw [hrest] at ho
    exact (plain_append.mp ho).2

/-- Nothing is read from an empty text. -/
theorem eq_none_of_readFrom_nil {α : Type} {suffix : α → Text} (hkey : ∀ a, Keyword (suffix a))
    {a : Option α} (h : ReadFrom suffix a []) : a = none := by
  cases a with
  | none => rfl
  | some a =>
      have hspace := (hkey a).space
      rw [← (h : toUppercase [] = _)] at hspace
      contradiction

/-- A text that ends in a quote ends in no keyword. -/
theorem Parts.Of.eq_none {p : Parts} {s : Text} (h : p.Of s) {c : Char}
    (hc : c ∈ (trim s).getLast?) (hq : sqlQuote c = true) :
    p.direction = none ∧ p.order = none := by
  have hplain : Plain sqlQuote (p.directionText ++ p.orderText) :=
    plain_append.mpr ⟨plain_of_readFrom plain_direction h.directionFrom,
      plain_of_readFrom plain_order h.order.readFrom⟩
  have hnil : p.directionText ++ p.orderText = [] := Classical.byContradiction fun hne => by
    rw [h.eq, List.append_assoc, getLast?_append_right hne] at hc
    rw [hplain c (List.mem_of_getLast? hc)] at hq
    contradiction
  obtain ⟨hd, ho⟩ := List.append_eq_nil_iff.mp hnil
  exact ⟨eq_none_of_readFrom_nil Direction.keyword (hd ▸ h.directionFrom),
    eq_none_of_readFrom_nil NullOrder.keyword (ho ▸ h.order.readFrom)⟩

/-- **Keywords inside quotes are never sort options**: of a text with
balanced quotes the engine is handed a part that is balanced and has the
same quoted parts; what is cut off in front of and behind it lies outside
all of them, and so does the text the direction and the null ordering are
read from.  A text that ends in a quoted part has neither of the two. -/
theorem quoted_parts_kept (s : Text) (hs : Quote.Balanced sqlQuote s) :
    ∃ (key : KeySpec) (pre post : Text), Recognised s key ∧ s = pre ++ key.expr ++ post ∧
      Quote.Balanced sqlQuote key.expr ∧ quotedParts sqlQuote key.expr = quotedParts sqlQuote s ∧
      LiesOutside sqlQuote [] pre ∧ LiesOutside sqlQuote (pre ++ key.expr) post ∧
      (∃ x d n w : Text, s = x ++ (d ++ n) ++ w ∧ ReadFrom Direction.suffix key.direction d ∧
        ReadFrom NullOrder.suffix key.nulls n ∧ LiesOutside sqlQuote x (d ++ n)) ∧
      ∀ c ∈ (trim s).getLast?, sqlQuote c = true → key.direction = none ∧ key.nulls = none := by
  obtain ⟨p, hp, hrec⟩ := recognised_parts s
  obtain ⟨tail, htail, hplain⟩ := hp.tail
  obtain ⟨w, w', hw, hw', hsw⟩ := trim_spec s
  obtain ⟨a, b, ha, hb, hexpr⟩ := trim_spec (p.expr ++ p.left)
  have hpre : Plain sqlQuote (w ++ a) :=
    plain_append.mpr ⟨plain_of_blank hw, plain_of_blank ha⟩
  have hpost : Plain sqlQuote (b ++ tail ++ w') :=
    plain_append.mpr ⟨plain_append.mpr ⟨plain_of_blank hb, hplain⟩, plain_of_blank hw'⟩
  have hsplit : s = (w ++ a) ++ p.key.expr ++ (b ++ tail ++ w') := by
    conv => lhs; rw [hsw, htail, hexpr]
    simp [Parts.key]
  have hs' := hs
  rw [hsplit] at hs'
  obtain ⟨hbal, hparts⟩ := hs'.middle hpre hpost
  rw [← hsplit] at hparts
  refine ⟨p.key, w ++ a, b ++ tail ++ w', hrec, hsplit, hbal, hparts, liesOutside_plain hpre,
    hs'.liesOutside hpost, ?_, fun c hc hq => hp.eq_none hc hq⟩
  -- the keywords are followed by whitespace only
  have hkeys : s = (w ++ p.expr) ++ (p.directionText ++ p.orderText ++ w') := by
    conv => lhs; rw [hsw, hp.eq]
    simp
  have hread : Plain sqlQuote (p.directionText ++ p.orderText ++ w') :=
    plain_append.mpr ⟨plain_append.mpr ⟨plain_of_readFrom plain_direction hp.directionFrom,
      plain_of_readFrom plain_order hp.order.readFrom⟩, plain_of_blank hw'⟩
  refine ⟨w ++ p.expr, p.directionText, p.orderText, w', by rw [List.append_assoc]; exact hkeys,
    hp.directionFrom, hp.order.readFrom, fun l hl => ?_⟩
  rw [hkeys] at hs
  exact hs.liesOutside hread l (hl.trans (List.prefix_append _ w'))

/-- A quoted identifier that ends in a keyword. -/
theorem quoted_parts_kept_ident :
    let s := "\x22my DESC\x22".toList
    ∃ (key : KeySpec) (pre post : Text), Recognised s key ∧ s = pre ++ key.expr ++ post ∧
      Quote.Balanced sqlQuote key.expr ∧ quotedParts sqlQuote key.expr = [s] ∧
      key.direction = none ∧ key.nulls = none := by
  intro s
  obtain ⟨key, pre, post, hrec, hs, hbal, hparts, -, -, -, hnone⟩ :=
    quoted_parts_kept s (by unfold Quote.Balanced; decide)
  have hlast : Char.ofNat 0x22 ∈ (trim s).getLast? := by decide
  obtain ⟨hd, hn⟩ := hnone _ hlast (by decide)
  exact ⟨key, pre, post, hrec, hs, hbal, hparts.trans (by decide), hd, hn⟩

end DataFusionPanama
