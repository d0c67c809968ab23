import DataFusionPanama.SortText

/-!
# DataFusionPanama.SortExact

When suffix recognition is exact: what is taken for keywords are the
keywords, in either ASCII letter case, and the engine is handed what stands
in front of them (`Exact`).

The parser compares the full uppercase of the text, which takes `DEſC` for
`DESC`, and cuts by the length of the keyword, which leaves a piece of
`NULLſ FIRſT` behind.  `exact_iff_asciiKeywords` says that nothing else goes
wrong: recognition is exact on precisely the texts in which everything that
reads as a keyword in uppercase is ASCII.
-/

namespace DataFusionPanama

/-! ## what recognition should be -/

/-- An optional keyword in some ASCII letter case. -/
def SpelledAs {α : Type} (suffix : α → Text) : Option α → Text → Prop
  | none, k => k = []
  | some a, k => IsCaseOf (suffix a) k

/-- The text is an expression, an optional direction and an optional null
ordering, and is parsed as just that. -/
def Exact (s : Text) : Prop :=
  ∃ (x d n : Text) (direction : Option Direction) (order : Option NullOrder),
    trim s = x ++ d ++ n ∧ SpelledAs Direction.suffix direction d ∧
      SpelledAs NullOrder.suffix order n ∧ Recognised s ⟨trim x, direction, order⟩

/-- Whatever reads as the keywords of the text in uppercase is ASCII. -/
def AsciiKeywords (s : Text) : Prop :=
  ∀ (x d n : Text) (direction : Option Direction) (order : Option NullOrder),
    trim s = x ++ d ++ n → ReadFrom Direction.suffix direction d →
      ReadFrom NullOrder.suffix order n → Ascii (d ++ n)

/-- An empty text is ASCII. -/
theorem ascii_nil : Ascii [] := fun _ hc => absurd hc List.not_mem_nil

/-- Written in ASCII is read by uppercase, and ASCII. -/
theorem spelledAs_iff {α : Type} {suffix : α → Text} (hkey : ∀ a, Keyword (suffix a))
    {a : Option α} {k : Text} : SpelledAs suffix a k ↔ Ascii k ∧ ReadFrom suffix a k := by
  cases a with
  | none => exact ⟨fun h => ⟨h ▸ ascii_nil, h⟩, fun h => h.2⟩
  | some a => exact isCaseOf_iff (hkey a).ascii

/-! ## one reading of a text -/

/-- No null ordering ends with the other. -/
private theorem order_disjoint {o o' : NullOrder} (h : o ≠ o') :
    endsWith o.suffix o'.suffix = false := by
  revert h
  cases o <;> cases o' <;> decide

/-- No direction ends with the other. -/
private theorem direction_disjoint {d d' : Direction} (h : d ≠ d') :
    endsWith d.suffix d'.suffix = false := by
  revert h
  cases d <;> cases d' <;> decide

/-- No null ordering ends with a direction, and no direction with a null
ordering. -/
private theorem order_direction_disjoint (o : NullOrder) (d : Direction) :
    endsWith o.suffix d.suffix = false ∧ endsWith d.suffix o.suffix = false := by
  cases o <;> cases d <;> decide

/-- A stage finds whatever keyword there is. -/
theorem Finds.unique {α : Type} {suffix : α → Text}
    (hdis : ∀ {a b}, a ≠ b → endsWith (suffix a) (suffix b) = false) {t x k : Text} {a : Option α}
    (h : Finds suffix t x k a) {y l : Text} {b : α} (ht : t = y ++ l)
    (hl : toUppercase l = suffix b) : l = k := by
  have hends : endsWith (toUppercase t) (suffix b) = true := by
    rw [ht, toUppercase_append, hl]
    exact endsWith_append _ _
  cases a with
  | none =>
      rw [h.missed rfl b] at hends
      contradiction
  | some a =>
      have hk : toUppercase k = suffix a := h.readFrom
      have hab : a = b := Classical.byContradiction fun hne => by
        rw [h.eq, toUppercase_append, hk, not_endsWith_append (hdis hne) (hdis (Ne.symm hne))]
          at hends
        contradiction
      subst hab
      exact eq_of_toUppercase_eq (ht.symm.trans h.eq) (hl.trans hk.symm)

/-- A null ordering that was found was written. -/
theorem Parts.Of.order_some {p : Parts} {s : Text} (h : p.Of s) {o : NullOrder}
    (ho : p.order = some o) : ReadFrom NullOrder.suffix (some o) p.orderText :=
  ho ▸ h.order.readFrom

/-- Where none was found none was written. -/
theorem Parts.Of.orderText_eq_nil {p : Parts} {s : Text} (h : p.Of s) (ho : p.order = none) :
    p.orderText = [] := by
  have hread := h.order.readFrom
  rwa [ho] at hread

/-- However a text is read, the null ordering is the one the parser finds, and
so is the direction; or the reading has neither. -/
theorem Parts.Of.reading {p : Parts} {s : Text} (h : p.Of s) {x d n : Text}
    {direction : Option Direction} {order : Option NullOrder} (hs : trim s = x ++ d ++ n)
    (hd : ReadFrom Direction.suffix direction d) (hn : ReadFrom NullOrder.suffix order n) :
    n = p.orderText ∧ (p.left = [] → d = p.directionText ∨ d = []) ∨ n = [] ∧ d = [] := by
  have hfront : n = p.orderText → p.left = [] → d = p.directionText ∨ d = [] := fun he hl => by
    have hx : p.expr ++ p.directionText = x ++ d := by
      have heq := h.eq.symm.trans hs
      rw [he] at heq
      exact List.append_cancel_right heq
    cases direction with
    | none => exact .inr hd
    | some d' => exact .inl ((h.direction hl).unique direction_disjoint hx hd)
  cases order with
  | some o =>
      have hno : n = p.orderText := h.order.unique order_disjoint hs hn
      exact .inl ⟨hno, hfront hno⟩
  | none =>
      obtain rfl : n = [] := hn
      cases ho : p.order with
      | none =>
          have hnil := (h.orderText_eq_nil ho).symm
          exact .inl ⟨hnil, hfront hnil⟩
      | some o =>
          cases direction with
          | none => exact .inr ⟨rfl, hd⟩
          | some d' =>
              -- the text would end in a direction and in a null ordering
              have hread : toUppercase p.orderText = o.suffix := h.order_some ho
              have hup : toUppercase (trim s) =
                  toUppercase (p.expr ++ p.directionText) ++ o.suffix := by
                rw [h.eq, toUppercase_append, hread]
              have hends : endsWith (toUppercase (trim s)) d'.suffix = true := by
                rw [hs, List.append_nil, toUppercase_append, hd]
                exact endsWith_append _ _
              obtain ⟨h1, h2⟩ := order_direction_disjoint o d'
              rw [hup, not_endsWith_append h1 h2] at hends
              contradiction

/-! ## what is taken for a keyword is not blank -/

/-- What ASCII keywords leave over is nothing. -/
theorem Parts.left_of_ascii {p : Parts} {s : Text} (h : p.Of s) (ha : Ascii p.orderText) :
    p.left = [] := by
  unfold Parts.left
  cases ho : p.order with
  | none => rfl
  | some o => exact o.keyword.leftover_ascii (h.order_some ho) ha

/-- A direction is read from something. -/
theorem eq_nil_of_direction_blank {d : Option Direction} {k : Text}
    (h : ReadFrom Direction.suffix d k) (hk : Blank k) : k = [] := by
  cases d with
  | none => exact h
  | some d =>
      have hkey : ¬ Blank d.suffix := by cases d <;> decide
      have hup : toUppercase k = d.suffix := h
      rw [toUppercase_of_blank hk] at hup
      exact absurd (hup ▸ hk) hkey

/-- What a null ordering leaves over is less than what it is read from. -/
theorem solid_leftOf_lt {o : NullOrder} {k : Text} (h : ReadFrom NullOrder.suffix (some o) k) :
    solid (leftOf NullOrder.suffix (some o) k) < solid k := by
  obtain ⟨-, -, hup, hdrift⟩ := o.keyword.leftover_spec h
  have hread : toUppercase k = o.suffix := h
  have hfour : o.suffix.countP softLetter ≤ 4 := by cases o <;> decide
  have hnot : ∀ n < 5, ¬ Blank (o.suffix.drop n) := by cases o <;> decide
  have hk : k = leftOf NullOrder.suffix (some o) k ++ k.drop (len k - len o.suffix) :=
    (List.take_append_drop _ k).symm
  -- the part that is cut off is the rest of the keyword
  have hrest : toUppercase (k.drop (len k - len o.suffix)) =
      o.suffix.drop (len k - len o.suffix) := by
    have heq := congrArg toUppercase hk
    rw [toUppercase_append, hread, leftOf, hup] at heq
    have hsplit := List.take_append_drop (len k - len o.suffix) o.suffix
    exact (List.append_cancel_left (hsplit.trans heq)).symm
  have hsolid : solid (k.drop (len k - len o.suffix)) ≠ 0 := fun h0 => by
    have hblank := solid_eq_zero.mp h0
    rw [toUppercase_of_blank hblank] at hrest
    exact hnot _ (by omega) (hrest ▸ hblank)
  have hsum := congrArg solid hk
  rw [solid_append] at hsum
  omega

/-! ## exactness -/

/-- Two keys a text is parsed as have the same expression. -/
theorem Recognised.expr_eq {s : Text} {k k' : KeySpec} (h : Recognised s k)
    (h' : Recognised s k') : k.expr = k'.expr := by
  have heq := (h Text pure).symm.trans (h' Text pure)
  simp only [pure_bind] at heq
  exact congrArg SortExpr.expr (Except.ok.inj heq)

/-- A direction read from something blank is read from nothing. -/
theorem Parts.Of.ascii_direction {p : Parts} {s : Text} (h : p.Of s)
    (h0 : solid p.directionText = 0) : Ascii p.directionText := by
  rw [eq_nil_of_direction_blank h.directionFrom (solid_eq_zero.mp h0)]
  exact ascii_nil

/-- If recognition is exact, what the parser takes for keywords is ASCII. -/
theorem Parts.Of.ascii_of_exact {p : Parts} {s : Text} (h : p.Of s) (hrec : Recognised s p.key)
    (he : Exact s) : Ascii (p.directionText ++ p.orderText) := by
  obtain ⟨x, d, n, direction, order, hs, hd, hn, hx⟩ := he
  obtain ⟨hda, hdr⟩ := (spelledAs_iff Direction.keyword).mp hd
  obtain ⟨hna, hnr⟩ := (spelledAs_iff NullOrder.keyword).mp hn
  -- both expressions have the same characters apart from whitespace
  have hsolid : solid x = solid p.expr + solid p.left := by
    have heq := congrArg solid (hx.expr_eq hrec)
    rwa [Parts.key, solid_trim, solid_trim, solid_append] at heq
  have htext := congrArg solid (h.eq.symm.trans hs)
  simp only [solid_append] at htext
  rcases h.reading hs hdr hnr with ⟨rfl, hfront⟩ | ⟨rfl, rfl⟩
  · have hleft := Parts.left_of_ascii h hna
    refine ascii_append.mpr ⟨?_, hna⟩
    rcases hfront hleft with rfl | rfl
    · exact hda
    · refine h.ascii_direction ?_
      rw [hleft, solid_nil] at hsolid
      rw [solid_nil] at htext
      omega
  · rw [solid_nil] at htext
    cases ho : p.order with
    | none =>
        have hleft : p.left = [] := by rw [Parts.left, ho]; rfl
        rw [h.orderText_eq_nil ho, List.append_nil]
        refine h.ascii_direction ?_
        rw [hleft, solid_nil] at hsolid
        omega
    | some o =>
        have hlt := solid_leftOf_lt (h.order_some ho)
        rw [Parts.left, ho] at hsolid
        omega

/-- A text that is read exactly has its keywords in ASCII. -/
theorem asciiKeywords_of_exact {s : Text} (he : Exact s) : AsciiKeywords s := by
  obtain ⟨p, hp, hrec⟩ := recognised_parts s
  intro x d n direction order hs hd hn
  obtain ⟨hda, hna⟩ := ascii_append.mp (hp.ascii_of_exact hrec he)
  rcases hp.reading hs hd hn with ⟨rfl, hfront⟩ | ⟨rfl, rfl⟩
  · refine ascii_append.mpr ⟨?_, hna⟩
    rcases hfront (Parts.left_of_ascii hp hna) with rfl | rfl
    · exact hda
    · exact ascii_nil
  · exact ascii_nil

/-- A text that has its keywords in ASCII is read exactly. -/
theorem exact_of_asciiKeywords {s : Text} (ha : AsciiKeywords s) : Exact s := by
  obtain ⟨p, hp, hrec⟩ := recognised_parts s
  obtain ⟨hda, hna⟩ := ascii_append.mp
    (ha _ _ _ _ _ hp.eq hp.directionFrom hp.order.readFrom)
  refine ⟨p.expr, p.directionText, p.orderText, p.direction, p.order, hp.eq,
    (spelledAs_iff Direction.keyword).mpr ⟨hda, hp.directionFrom⟩,
    (spelledAs_iff NullOrder.keyword).mpr ⟨hna, hp.order.readFrom⟩, ?_⟩
  have hkey : p.key = ⟨trim p.expr, p.direction, p.order⟩ := by
    rw [Parts.key, Parts.left_of_ascii hp hna, List.append_nil]
  exact hkey ▸ hrec

/-- **When suffix recognition is exact**: on precisely the texts in which
whatever reads as a keyword in uppercase is ASCII. -/
theorem exact_iff_asciiKeywords (s : Text) : Exact s ↔ AsciiKeywords s :=
  ⟨asciiKeywords_of_exact, exact_of_asciiKeywords⟩

/-- Two long s are two bytes more than the keyword has, and its first two
characters stay with the expression; one in `DEſC` makes a descending key of
a text that has no such keyword. -/
theorem keyword_misread :
    (¬ Exact "a NULL\u017F FIR\u017FT".toList ∧
      sortKey "a NULL\u017F FIR\u017FT".toList = pure ⟨"a N".toList, true, true⟩) ∧
    ¬ Exact "a DE\u017FC".toList ∧
      sortKey "a DE\u017FC".toList = pure ⟨"a".toList, false, true⟩ := by
  have horder : ReadFrom NullOrder.suffix (some .first) " NULL\u017F FIR\u017FT".toList := by
    show toUppercase _ = _
    decide +kernel
  have hdirection : ReadFrom Direction.suffix (some .desc) " DE\u017FC".toList := by
    show toUppercase _ = _
    decide +kernel
  refine ⟨⟨fun h => ?_, rfl⟩, fun h => ?_, rfl⟩
  · have hascii := asciiKeywords_of_exact h "a".toList [] _ none (some .first)
      (by decide +kernel) rfl horder
    exact absurd hascii (by decide)
  · have hascii := asciiKeywords_of_exact h "a".toList _ [] (some .desc) none
      (by decide +kernel) hdirection rfl
    exact absurd hascii (by decide)

end DataFusionPanama
