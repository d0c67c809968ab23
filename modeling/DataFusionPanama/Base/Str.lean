import DataFusionPanama.Base.CaseMap

/-!
# DataFusionPanama.Base.Str

The part of Rust's `str` that suffix parsing rests on: `trim`, byte
lengths, slicing at a byte index (which panics off a character boundary)
and `ends_with`.  A `str` is its list of characters; byte positions are
recovered through `Char.utf8Size`.

The lemmas come in two families.  *Trimming*: text that neither starts nor
ends in whitespace is what `trim` returns, whatever whitespace surrounds it.
*Suffixes*: a text that ends in a keyword is cut exactly in front of it, and
a text whose tail is not nested with a keyword does not end in it.
-/

namespace DataFusionPanama

/-! ## trimming -/

/-- `char::is_whitespace`: the Unicode `White_Space` property. -/
def isWhitespace (c : Char) : Bool :=
  (0x9 ≤ c.toNat && c.toNat ≤ 0xD) || c.toNat == 0x20 || c.toNat == 0x85 || c.toNat == 0xA0 ||
    c.toNat == 0x1680 || (0x2000 ≤ c.toNat && c.toNat ≤ 0x200A) || c.toNat == 0x2028 ||
    c.toNat == 0x2029 || c.toNat == 0x202F || c.toNat == 0x205F || c.toNat == 0x3000

def trimStart (s : Text) : Text := s.dropWhile isWhitespace

def trimEnd (s : Text) : Text := (s.reverse.dropWhile isWhitespace).reverse

/-- `str::trim`. -/
def trim (s : Text) : Text := trimEnd (trimStart s)

/-- Nothing but whitespace. -/
def Blank (s : Text) : Prop := ∀ c ∈ s, isWhitespace c = true

instance (s : Text) : Decidable (Blank s) :=
  inferInstanceAs (Decidable (∀ c ∈ s, isWhitespace c = true))

/-- Non-empty, and neither the first nor the last character is whitespace:
exactly the non-empty results of `trim`. -/
structure Trimmed (s : Text) : Prop where
  ne_nil : s ≠ []
  head : ∀ c ∈ s.head?, isWhitespace c = false
  last : ∀ c ∈ s.getLast?, isWhitespace c = false

instance (s : Text) : Decidable (Trimmed s) :=
  decidable_of_iff (s ≠ [] ∧ (∀ c ∈ s.head?, isWhitespace c = false) ∧
      ∀ c ∈ s.getLast?, isWhitespace c = false)
    ⟨fun h => ⟨h.1, h.2.1, h.2.2⟩, fun h => ⟨h.ne_nil, h.head, h.last⟩⟩

/-- Blanks in front are dropped. -/
theorem dropWhile_blank_append {w s : Text} (hw : Blank w) :
    (w ++ s).dropWhile isWhitespace = s.dropWhile isWhitespace := by
  induction w with
  | nil => rfl
  | cons c w ih =>
      have hc : isWhitespace c = true := hw c (by simp)
      rw [List.cons_append, List.dropWhile_cons, if_pos hc]
      exact ih (fun d hd => hw d (List.mem_cons_of_mem _ hd))

/-- Nothing is dropped in front of a character that is no blank. -/
theorem dropWhile_of_head {s : Text} (h : ∀ c ∈ s.head?, isWhitespace c = false) :
    s.dropWhile isWhitespace = s := by
  cases s with
  | nil => rfl
  | cons c s =>
      have hc : isWhitespace c = false := h c (by simp)
      rw [List.dropWhile_cons, if_neg (by simp [hc])]

/-- Blanks in front are trimmed. -/
theorem trimStart_blank_append {w s : Text} (hw : Blank w) :
    trimStart (w ++ s) = trimStart s := dropWhile_blank_append hw

/-- Blanks at the end are trimmed. -/
theorem trimEnd_append_blank {w s : Text} (hw : Blank w) : trimEnd (s ++ w) = trimEnd s := by
  unfold trimEnd
  rw [List.reverse_append, dropWhile_blank_append (fun c hc => hw c (List.mem_reverse.mp hc))]

/-- A text that does not start with a blank is not trimmed in front. -/
theorem trimStart_of_head {s : Text} (h : ∀ c ∈ s.head?, isWhitespace c = false) :
    trimStart s = s := dropWhile_of_head h

/-- A text that does not end in a blank is not trimmed at its end. -/
theorem trimEnd_of_last {s : Text} (h : ∀ c ∈ s.getLast?, isWhitespace c = false) :
    trimEnd s = s := by
  unfold trimEnd
  rw [dropWhile_of_head (by rwa [List.head?_reverse]), List.reverse_reverse]

/-- The first character is that of the first part. -/
private theorem head?_append_left {s t : Text} (h : s ≠ []) : (s ++ t).head? = s.head? := by
  cases s with
  | nil => contradiction
  | cons c s => rfl

/-- The last character is that of the last part. -/
theorem getLast?_append_right {s t : Text} (h : t ≠ []) :
    (s ++ t).getLast? = t.getLast? := by
  rw [List.getLast?_append]
  cases ht : t.getLast? with
  | none => exact absurd (List.getLast?_eq_none_iff.mp ht) h
  | some c => rfl

/-- A trimmed text stays as it is. -/
theorem Trimmed.trim_eq {s : Text} (h : Trimmed s) : trim s = s := by
  rw [trim, trimStart_of_head h.head, trimEnd_of_last h.last]

/-- Surrounding whitespace is all `trim` removes. -/
theorem Trimmed.trim_surround {s w w' : Text} (h : Trimmed s) (hw : Blank w) (hw' : Blank w') :
    trim (w ++ s ++ w') = s := by
  have hs : ∀ c ∈ (s ++ w').head?, isWhitespace c = false := by
    intro c hc
    rw [head?_append_left h.ne_nil] at hc
    exact h.head c hc
  rw [trim, List.append_assoc, trimStart_blank_append hw, trimStart_of_head hs,
    trimEnd_append_blank hw', trimEnd_of_last h.last]

/-- Trimming takes back the blanks put behind a trimmed text. -/
theorem Trimmed.trim_append {s w : Text} (h : Trimmed s) (hw : Blank w) : trim (s ++ w) = s := by
  simpa using h.trim_surround (w := []) (fun _ hc => absurd hc List.not_mem_nil) hw

/-- A text that starts like a trimmed text and ends like one is trimmed. -/
theorem Trimmed.append {s t : Text} (hs : Trimmed s) (ht : t ≠ [])
    (hlast : ∀ c ∈ t.getLast?, isWhitespace c = false) : Trimmed (s ++ t) where
  ne_nil := by simp [hs.ne_nil]
  head := by rw [head?_append_left hs.ne_nil]; exact hs.head
  last := by rwa [getLast?_append_right ht]

/-- What is dropped in front is blank. -/
private theorem blank_takeWhile (s : Text) : Blank (s.takeWhile isWhitespace) := fun c hc =>
  List.all_eq_true.mp List.all_takeWhile c hc

/-- What is trimmed at the end is blank. -/
private theorem trimEnd_spec (s : Text) : ∃ w, Blank w ∧ s = trimEnd s ++ w := by
  refine ⟨(s.reverse.takeWhile isWhitespace).reverse,
    fun c hc => blank_takeWhile _ c (List.mem_reverse.mp hc), ?_⟩
  rw [trimEnd, ← List.reverse_append, List.takeWhile_append_dropWhile, List.reverse_reverse]

/-- What `trim` removes is whitespace. -/
theorem trim_spec (s : Text) : ∃ w w', Blank w ∧ Blank w' ∧ s = w ++ trim s ++ w' := by
  obtain ⟨w', hw', hs⟩ := trimEnd_spec (trimStart s)
  refine ⟨s.takeWhile isWhitespace, w', blank_takeWhile s, hw', ?_⟩
  rw [List.append_assoc, trim, ← hs, trimStart, List.takeWhile_append_dropWhile]

/-- Nothing is left of a blank text. -/
theorem trim_of_blank {s : Text} (h : Blank s) : trim s = [] := by
  have hs : trimStart s = [] := by
    have := dropWhile_blank_append (s := []) h
    rwa [List.append_nil] at this
  rw [trim, hs]
  rfl

/-- What is left does not start with a blank. -/
private theorem head?_dropWhile (s : Text) :
    ∀ c ∈ (s.dropWhile isWhitespace).head?, isWhitespace c = false := by
  intro c hc
  have := List.head?_dropWhile_not isWhitespace s
  rw [Option.mem_def.mp hc] at this
  simpa using this

/-- `trim` leaves nothing, or a text that is trimmed. -/
theorem trimmed_trim {s : Text} (h : trim s ≠ []) : Trimmed (trim s) where
  ne_nil := h
  head := by
    obtain ⟨w', -, hs⟩ := trimEnd_spec (trimStart s)
    have hhead := head?_dropWhile s
    rw [← trimStart, hs, ← trim, head?_append_left h] at hhead
    exact hhead
  last := by
    rw [trim, trimEnd, List.getLast?_reverse]
    exact head?_dropWhile _

/-- Whitespace behind a text makes no difference. -/
theorem trim_append_blank {s w : Text} (hw : Blank w) : trim (s ++ w) = trim s := by
  obtain ⟨a, b, ha, hb, hs⟩ := trim_spec s
  by_cases h : trim s = []
  · have hblank : Blank (s ++ w) := by
      rw [hs, h]
      simpa [Blank, or_imp, forall_and] using ⟨ha, hb, hw⟩
    rw [h, trim_of_blank hblank]
  · have hbw : Blank (b ++ w) := fun c hc => (List.mem_append.mp hc).elim (hb c) (hw c)
    conv => lhs; rw [hs, List.append_assoc]
    exact (trimmed_trim h).trim_surround ha hbw

/-- The number of characters that are not whitespace. -/
def solid (s : Text) : Nat := s.countP (!isWhitespace ·)

@[simp] theorem solid_nil : solid [] = 0 := rfl

/-- Solid characters are counted part by part. -/
@[simp] theorem solid_append (s t : Text) : solid (s ++ t) = solid s + solid t :=
  List.countP_append

/-- A text without solid characters is blank. -/
theorem solid_eq_zero {s : Text} : solid s = 0 ↔ Blank s := by
  simp [solid, List.countP_eq_zero, Blank]

/-- `trim` keeps them all. -/
@[simp] theorem solid_trim (s : Text) : solid (trim s) = solid s := by
  obtain ⟨w, w', hw, hw', hs⟩ := trim_spec s
  conv => rhs; rw [hs]
  rw [solid_append, solid_append, solid_eq_zero.mpr hw, solid_eq_zero.mpr hw']
  simp

/-! ## byte lengths and slices -/

/-- `str::len`: the length in bytes. -/
def len : Text → Nat
  | [] => 0
  | c :: s => c.utf8Size + len s

@[simp] theorem len_nil : len [] = 0 := rfl

@[simp] theorem len_cons (c : Char) (s : Text) : len (c :: s) = c.utf8Size + len s := rfl

@[simp] theorem len_append (s t : Text) : len (s ++ t) = len s + len t := by
  induction s with
  | nil => simp
  | cons c s ih => rw [List.cons_append, len_cons, len_cons, ih, Nat.add_assoc]

/-- Text of one-byte characters has as many bytes as characters. -/
theorem len_eq_length {s : Text} (h : ∀ c ∈ s, c.utf8Size = 1) : len s = s.length := by
  induction s with
  | nil => rfl
  | cons c s ih =>
      rw [len_cons, h c (by simp), ih (fun d hd => h d (List.mem_cons_of_mem _ hd)),
        List.length_cons, Nat.add_comm]

/-- `&s[..n]`: the characters in front of byte index `n`, if `n` lies on a
character boundary of `s`. -/
def sliceTo : Text → Nat → Option Text
  | _, 0 => some []
  | [], _ + 1 => none
  | c :: s, n + 1 =>
      if c.utf8Size ≤ n + 1 then (sliceTo s (n + 1 - c.utf8Size)).map (c :: ·) else none

/-- A cut at the end of a part gives the part. -/
theorem sliceTo_append (s t : Text) : sliceTo (s ++ t) (len s) = some s := by
  induction s with
  | nil => cases t <;> rfl
  | cons c s ih =>
      have hpos := c.utf8Size_pos
      obtain ⟨n, hn⟩ : ∃ n, len (c :: s) = n + 1 := ⟨c.utf8Size + len s - 1, by
        rw [len_cons]; omega⟩
      have hsub : n + 1 - c.utf8Size = len s := by rw [← hn, len_cons]; omega
      rw [hn, List.cons_append, sliceTo, if_pos (by rw [← hn, len_cons]; omega), hsub, ih]
      rfl

/-! ## suffixes -/

/-- `str::ends_with`. -/
def endsWith (s suffix : Text) : Bool := suffix.isSuffixOf s

/-- `ends_with` is being a suffix. -/
theorem endsWith_iff {s t : Text} : endsWith s t = true ↔ t <:+ s := List.isSuffixOf_iff_suffix

/-- A text ends with its last part. -/
@[simp] theorem endsWith_append (s t : Text) : endsWith (s ++ t) t = true :=
  endsWith_iff.mpr (List.suffix_append s t)

/-- A text ends in `t` or not whatever stands in front of a tail `k` that is
not nested with `t`. -/
theorem not_endsWith_append {s t k : Text} (hk : endsWith k t = false)
    (ht : endsWith t k = false) : endsWith (s ++ k) t = false := by
  rw [Bool.eq_false_iff, Ne, endsWith_iff] at *
  intro h
  rcases List.suffix_or_suffix_of_suffix h (List.suffix_append s k) with h' | h'
  · exact hk h'
  · exact ht h'

end DataFusionPanama
