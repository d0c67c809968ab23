import DataFusionPanama.Base.Str

/-!
# DataFusionPanama.Base.Upper

Which texts uppercase to a given ASCII text.  Besides ASCII itself there are
ten characters whose full uppercase is ASCII (`softChars`): sharp s, dotless
i, long s and the Latin ligatures.  Each of them is at most one byte longer
than its uppercase, and its uppercase starts with one of the letters `F`,
`I` and `S`.

So a text that matches a keyword in uppercase is at most as many bytes too
long as the keyword has of these letters (`len_of_ascii`), and the part of it
in front of the first of them is spelled in ASCII (`ascii_prefix`).
`Keyword` collects what a keyword needs for a cut by its own length to stay
among those ASCII characters, and `Keyword.leftover_spec` is what such a cut
leaves.
-/

namespace DataFusionPanama

/-- ASCII text. -/
def Ascii (s : Text) : Prop := ∀ c ∈ s, c.toNat < 128

instance (s : Text) : Decidable (Ascii s) :=
  inferInstanceAs (Decidable (∀ c ∈ s, c.toNat < 128))

/-- A text is ASCII when its parts are. -/
theorem ascii_append {s t : Text} : Ascii (s ++ t) ↔ Ascii s ∧ Ascii t :=
  List.forall_mem_append

/-- An ASCII character is one byte. -/
theorem utf8Size_of_ascii {c : Char} (h : c.toNat < 128) : c.utf8Size = 1 :=
  Char.utf8Size_eq_one_iff.mpr (UInt32.le_iff_toNat_le.mpr (Nat.le_of_lt_succ h))

/-- An ASCII text has as many bytes as characters. -/
theorem Ascii.len_eq {s : Text} (h : Ascii s) : len s = s.length :=
  len_eq_length fun c hc => utf8Size_of_ascii (h c hc)

/-! ## the uppercase of one character -/

/-- The one-to-many mapping, no mapping, or a run. -/
theorem toUpper_cases (c : Char) :
    (∃ us, (c.toNat, us) ∈ specialUpper ∧ toUpper c = us.map Char.ofNat) ∨ toUpper c = [c] ∨
      ∃ r ∈ upperRuns, r.first ≤ c.toNat ∧ c.toNat ≤ r.last ∧
        toUpper c = [Char.ofNat (r.upper + (c.toNat - r.first))] := by
  unfold toUpper
  cases hs : specialUpper.lookup c.toNat with
  | some us =>
      obtain ⟨l₁, l₂, hl, -⟩ := List.lookup_eq_some_iff.mp hs
      exact .inl ⟨us, by rw [hl]; simp, rfl⟩
  | none =>
      refine .inr ?_
      unfold simpleUpper
      cases hr : upperRuns.find? (·.covers c.toNat) with
      | none => exact .inl (by simp)
      | some r =>
          have hc := List.find?_some hr
          simp only [CaseRun.covers, Bool.and_eq_true, decide_eq_true_eq] at hc
          exact .inr ⟨r, List.mem_of_find?_eq_some hr, hc.1.1, hc.1.2, rfl⟩

/-- The characters outside ASCII with an ASCII uppercase. -/
def softChars : Text :=
  [0xDF, 0x131, 0x17F, 0xFB00, 0xFB01, 0xFB02, 0xFB03, 0xFB04, 0xFB05, 0xFB06].map Char.ofNat

/-- The letters their uppercases start with. -/
def softLetter (c : Char) : Bool := c == 'F' || c == 'I' || c == 'S'

/-- Every run maps into the code points. -/
private theorem upperRuns_valid : ∀ r ∈ upperRuns,
    r.upper + (r.last - r.first) < 0xD800 ∨
      0xDFFF < r.upper ∧ r.upper + (r.last - r.first) < 0x110000 := by
  decide +kernel

/-- Only ASCII characters and the soft ones map into ASCII by a run. -/
private theorem upperRuns_ascii : ∀ r ∈ upperRuns, r.upper < 128 →
    r.last < 128 ∨ r.first = r.last ∧ Char.ofNat r.first ∈ softChars := by
  decide +kernel

/-- No run maps to a space. -/
private theorem upperRuns_space : ∀ r ∈ upperRuns, 0x20 < r.upper := by
  decide +kernel

/-- Only soft characters become several ASCII ones. -/
private theorem specialUpper_ascii : ∀ e ∈ specialUpper,
    (∀ u ∈ e.2, (Char.ofNat u).toNat < 128) → Char.ofNat e.1 ∈ softChars := by
  decide +kernel

/-- No character becomes nothing, or a space. -/
private theorem specialUpper_space : ∀ e ∈ specialUpper,
    e.2 ≠ [] ∧ ∀ u ∈ e.2, Char.ofNat u ≠ ' ' := by
  decide +kernel

/-- The uppercase of a character of a run. -/
private theorem toNat_run {r : CaseRun} (hr : r ∈ upperRuns) {n : Nat} (hl : n ≤ r.last) :
    (Char.ofNat (r.upper + (n - r.first))).toNat = r.upper + (n - r.first) := by
  refine toNat_charOfNat ?_
  have := upperRuns_valid r hr
  unfold Nat.isValidChar
  omega

/-- **Only ASCII and the soft characters have an ASCII uppercase.** -/
theorem mem_softChars_of_ascii {c : Char} (h : Ascii (toUpper c)) :
    c.toNat < 128 ∨ c ∈ softChars := by
  rcases toUpper_cases c with ⟨us, hmem, hup⟩ | hup | ⟨r, hr, hf, hl, hup⟩
  · rw [hup] at h
    have hsoft := specialUpper_ascii _ hmem fun u hu => h _ (List.mem_map_of_mem hu)
    exact .inr (by simpa using hsoft)
  · rw [hup] at h
    exact .inl (h c (by simp))
  · rw [hup] at h
    have hlt := h _ (List.mem_singleton_self _)
    rw [toNat_run hr hl] at hlt
    rcases upperRuns_ascii r hr (by omega) with hlast | ⟨heq, hsoft⟩
    · exact .inl (by omega)
    · have hc : c = Char.ofNat r.first := by
        rw [← Char.ofNat_toNat c, show c.toNat = r.first by omega]
      exact .inr (hc ▸ hsoft)

/-- No character vanishes in uppercase. -/
theorem toUpper_ne_nil (c : Char) : toUpper c ≠ [] := by
  rcases toUpper_cases c with ⟨us, hmem, hup⟩ | hup | ⟨r, hr, hf, hl, hup⟩
  · rw [hup]
    simpa using (specialUpper_space _ hmem).1
  · simp [hup]
  · simp [hup]

/-- **Only the space has a space in its uppercase.** -/
theorem eq_space_of_mem {c : Char} (h : ' ' ∈ toUpper c) : c = ' ' := by
  rcases toUpper_cases c with ⟨us, hmem, hup⟩ | hup | ⟨r, hr, hf, hl, hup⟩
  · rw [hup] at h
    obtain ⟨u, hu, he⟩ := List.mem_map.mp h
    exact absurd he ((specialUpper_space _ hmem).2 u hu)
  · rw [hup] at h
    exact (List.mem_singleton.mp h).symm
  · rw [hup] at h
    have he := congrArg Char.toNat (List.mem_singleton.mp h)
    rw [toNat_run hr hl] at he
    have := upperRuns_space r hr
    have h20 : (' ' : Char).toNat = 0x20 := rfl
    omega

/-- Ranges of code points all whitespace lies in. -/
private def blankRanges : List (Nat × Nat) :=
  [(0x9, 0x20), (0x85, 0xA0), (0x1680, 0x1680), (0x2000, 0x205F), (0x3000, 0x3000)]

/-- A blank is in one of the ranges. -/
private theorem mem_blankRanges {c : Char} (h : isWhitespace c = true) :
    ∃ w ∈ blankRanges, w.1 ≤ c.toNat ∧ c.toNat ≤ w.2 := by
  simp only [isWhitespace, Bool.or_eq_true, Bool.and_eq_true, decide_eq_true_eq, beq_iff_eq] at h
  have hn : 0x9 ≤ c.toNat ∧ c.toNat ≤ 0x20 ∨ 0x85 ≤ c.toNat ∧ c.toNat ≤ 0xA0 ∨
      0x1680 ≤ c.toNat ∧ c.toNat ≤ 0x1680 ∨ 0x2000 ≤ c.toNat ∧ c.toNat ≤ 0x205F ∨
      0x3000 ≤ c.toNat ∧ c.toNat ≤ 0x3000 := by omega
  simpa only [blankRanges, List.mem_cons, List.not_mem_nil, or_false, exists_eq_or_imp,
    exists_eq_left] using hn

/-- No run touches a blank. -/
private theorem upperRuns_blank : ∀ r ∈ upperRuns, ∀ w ∈ blankRanges,
    w.2 < r.first ∨ r.last < w.1 := by
  decide +kernel

/-- No blank becomes several characters. -/
private theorem specialUpper_blank :
    ∀ e ∈ specialUpper, isWhitespace (Char.ofNat e.1) = false := by
  decide +kernel

/-- **Whitespace has no case.** -/
theorem toUpper_of_blank {c : Char} (h : isWhitespace c = true) : toUpper c = [c] := by
  rcases toUpper_cases c with ⟨us, hmem, hup⟩ | hup | ⟨r, hr, hf, hl, hup⟩
  · have hnot := specialUpper_blank _ hmem
    rw [Char.ofNat_toNat, h] at hnot
    contradiction
  · exact hup
  · obtain ⟨w, hw, hw1, hw2⟩ := mem_blankRanges h
    have := upperRuns_blank r hr w hw
    omega

/-- A soft character is as long as its uppercase or one byte longer, and its
uppercase starts with a soft letter. -/
theorem softChars_spec : ∀ c ∈ softChars,
    (toUpper c).length ≤ c.utf8Size ∧ c.utf8Size ≤ (toUpper c).length + 1 ∧
      ∃ d u, toUpper c = d :: u ∧ softLetter d = true := by
  have table : ∀ c ∈ softChars, (toUpper c).length ≤ c.utf8Size ∧
      c.utf8Size ≤ (toUpper c).length + 1 ∧ (toUpper c).head?.any softLetter = true := by
    decide +kernel
  intro c hc
  obtain ⟨h1, h2, h3⟩ := table c hc
  refine ⟨h1, h2, ?_⟩
  cases hu : toUpper c with
  | nil => exact absurd hu (toUpper_ne_nil c)
  | cons d u => exact ⟨d, u, rfl, by simpa [hu] using h3⟩

/-! ## the uppercase of a text -/

/-- Only the empty text is empty in uppercase. -/
theorem toUppercase_eq_nil {s : Text} : toUppercase s = [] ↔ s = [] := by
  cases s with
  | nil => simp [toUppercase]
  | cons c s => simp [toUpper_ne_nil]

/-- On ASCII, uppercase is taken letter by letter. -/
theorem toUppercase_ascii {s : Text} (h : Ascii s) : toUppercase s = s.map Char.toUpper := by
  induction s with
  | nil => rfl
  | cons c s ih =>
      rw [toUppercase_cons, toUpper_ascii (h c (by simp)),
        ih fun d hd => h d (List.mem_cons_of_mem c hd)]
      rfl

/-- Blanks stay what they are in uppercase. -/
theorem toUppercase_of_blank {s : Text} (h : Blank s) : toUppercase s = s := by
  induction s with
  | nil => rfl
  | cons c s ih =>
      rw [toUppercase_cons, toUpper_of_blank (h c (by simp)),
        ih fun d hd => h d (List.mem_cons_of_mem c hd)]
      rfl

/-- A tail is determined by its uppercase. -/
theorem eq_of_toUppercase_eq {x y k l : Text} (h : x ++ k = y ++ l)
    (hup : toUppercase k = toUppercase l) : k = l := by
  rcases List.append_eq_append_iff.mp h with ⟨m, -, rfl⟩ | ⟨m, -, rfl⟩
  · have hm : toUppercase m = [] := by simpa using hup
    rw [toUppercase_eq_nil.mp hm]
    rfl
  · have hm : toUppercase m = [] := by simpa using hup
    rw [toUppercase_eq_nil.mp hm]
    rfl

/-- A space of the uppercase is a space of the text. -/
theorem toUppercase_split_space {s u v : Text} (h : toUppercase s = u ++ ' ' :: v) :
    ∃ x y, s = x ++ ' ' :: y ∧ toUppercase x = u ∧ toUppercase y = v := by
  have hspace : toUpper ' ' = [' '] := by decide
  induction s generalizing u with
  | nil => simp [toUppercase] at h
  | cons c s ih =>
      rw [toUppercase_cons] at h
      rcases List.append_eq_append_iff.mp h with ⟨u', rfl, hs⟩ | ⟨w, hc, hv⟩
      · obtain ⟨x, y, rfl, rfl, rfl⟩ := ih hs
        exact ⟨c :: x, y, rfl, rfl, rfl⟩
      · cases w with
        | nil =>
            obtain ⟨x, y, rfl, hx, rfl⟩ := ih (u := []) hv.symm
            exact ⟨c :: x, y, rfl, by rw [toUppercase_cons, hx, hc]; simp, rfl⟩
        | cons d w =>
            -- the space stems from this character, which is one
            obtain ⟨rfl, rfl⟩ := List.cons.inj hv
            obtain rfl := eq_space_of_mem (c := c) (by rw [hc]; simp)
            rw [hspace] at hc
            cases u with
            | nil =>
                obtain rfl : w = [] := by simpa using hc.symm
                exact ⟨[], s, rfl, rfl, rfl⟩
            | cons d u =>
                have hlen := congrArg List.length hc
                simp at hlen

/-- **The drift**: text with an ASCII uppercase is at least as long as it,
and at most as many bytes longer as there are soft letters in it. -/
theorem len_of_ascii {k : Text} (h : Ascii (toUppercase k)) :
    (toUppercase k).length ≤ len k ∧
      len k ≤ (toUppercase k).length + (toUppercase k).countP softLetter := by
  induction k with
  | nil => simp [toUppercase]
  | cons c k ih =>
      rw [toUppercase_cons, ascii_append] at h
      obtain ⟨ihl, ihu⟩ := ih h.2
      rw [toUppercase_cons, len_cons, List.length_append, List.countP_append]
      rcases mem_softChars_of_ascii h.1 with hc | hc
      · rw [toUpper_ascii hc, utf8Size_of_ascii hc, List.length_singleton]
        omega
      · obtain ⟨hl, hu, d, u, hup, hd⟩ := softChars_spec c hc
        have hpos : 1 ≤ (toUpper c).countP softLetter := by
          rw [hup]
          simp [hd]
        omega

/-- In front of the first soft letter of its uppercase a text is spelled in
ASCII. -/
theorem ascii_prefix {k u v : Text} (h : toUppercase k = u ++ v) (ha : Ascii (u ++ v))
    (hu : ∀ c ∈ u, softLetter c = false) :
    ∃ p q, k = p ++ q ∧ Ascii p ∧ p.length = u.length ∧ toUppercase p = u ∧ toUppercase q = v := by
  induction u generalizing k with
  | nil => exact ⟨[], k, rfl, by simp [Ascii], rfl, rfl, h⟩
  | cons d u ih =>
      cases k with
      | nil => simp [toUppercase] at h
      | cons c k =>
          rw [toUppercase_cons] at h
          have hc : c.toNat < 128 := by
            rw [← h, ascii_append] at ha
            refine (mem_softChars_of_ascii ha.1).resolve_right fun hsoft => ?_
            obtain ⟨-, -, d', u', hup, hd'⟩ := softChars_spec c hsoft
            rw [hup] at h
            obtain ⟨rfl, -⟩ := List.cons.inj h
            rw [hu d' (by simp)] at hd'
            contradiction
          rw [toUpper_ascii hc] at h
          obtain ⟨rfl, hrest⟩ := List.cons.inj h
          obtain ⟨p, q, rfl, hp, hlen, rfl, rfl⟩ := ih hrest (fun e he => ha e (by simp_all))
            fun e he => hu e (List.mem_cons_of_mem _ he)
          refine ⟨c :: p, q, rfl, ?_, by rw [List.length_cons, List.length_cons, hlen], ?_, rfl⟩
          · exact List.forall_mem_cons.mpr ⟨hc, hp⟩
          · rw [toUppercase_cons, toUpper_ascii hc]
            rfl

/-! ## keywords -/

/-- What makes it safe to look for a keyword on the uppercase of a text and to
cut the text by the length of the keyword: it is ASCII, it starts with a
space, and it has at most as many soft letters as there are characters in
front of the first of them. -/
structure Keyword (key : Text) : Prop where
  ascii : Ascii key
  space : key.head? = some ' '
  drift : key.countP softLetter ≤ (key.takeWhile (!softLetter ·)).length

instance (key : Text) : Decidable (Keyword key) :=
  decidable_of_iff (Ascii key ∧ key.head? = some ' ' ∧
      key.countP softLetter ≤ (key.takeWhile (!softLetter ·)).length)
    ⟨fun h => ⟨h.1, h.2.1, h.2.2⟩, fun h => ⟨h.ascii, h.space, h.drift⟩⟩

/-- What a cut by the length of the keyword leaves of its spelling. -/
def leftover (key k : Text) : Text := k.take (len k - len key)

namespace Keyword

variable {key k : Text}

/-- A text ends in the keyword in uppercase exactly when a tail of it is the
keyword in uppercase. -/
theorem endsWith_iff (hkey : Keyword key) {s : Text} :
    endsWith (toUppercase s) key = true ↔ ∃ x k, s = x ++ k ∧ toUppercase k = key := by
  constructor
  · intro h
    obtain ⟨u, hu⟩ := DataFusionPanama.endsWith_iff.mp h
    obtain ⟨v, rfl⟩ : ∃ v, key = ' ' :: v := by
      cases key with
      | nil => cases hkey.space
      | cons c v => exact ⟨v, by rw [Option.some.inj hkey.space]⟩
    obtain ⟨x, y, rfl, -, rfl⟩ := toUppercase_split_space hu.symm
    exact ⟨x, ' ' :: y, rfl, rfl⟩
  · rintro ⟨x, k, rfl, rfl⟩
    simp

/-- What is left over is ASCII, and the beginning of the keyword. -/
theorem leftover_spec (hkey : Keyword key) (hk : toUppercase k = key) :
    len key ≤ len k ∧ len (leftover key k) = len k - len key ∧
      toUppercase (leftover key k) = key.take (len k - len key) ∧
      len k - len key ≤ key.countP softLetter := by
  have hdrift := hkey.drift
  have hkey' : toUppercase k =
      key.takeWhile (!softLetter ·) ++ key.dropWhile (!softLetter ·) := by
    rw [hk, List.takeWhile_append_dropWhile]
  have hlen := len_of_ascii (k := k) (hk ▸ hkey.ascii)
  rw [hk, ← hkey.ascii.len_eq] at hlen
  have hle : len k - len key ≤ (key.takeWhile (!softLetter ·)).length := by omega
  obtain ⟨p, q, rfl, hp, hplen, hpu, -⟩ := ascii_prefix hkey'
    (by rw [List.takeWhile_append_dropWhile]; exact hkey.ascii)
    (fun c hc => by simpa using List.all_eq_true.mp List.all_takeWhile c hc)
  have htake : leftover key (p ++ q) = p.take (len (p ++ q) - len key) := by
    rw [leftover, List.take_append_of_le_length (by omega)]
  have hascii : ∀ n, Ascii (p.take n) := fun n c hc => hp c (List.mem_of_mem_take hc)
  refine ⟨hlen.1, ?_, ?_, by omega⟩
  · rw [htake, (hascii _).len_eq, List.length_take]
    omega
  · rw [htake, toUppercase_ascii (hascii _), List.map_take, ← toUppercase_ascii hp, hpu]
    obtain ⟨t, ht⟩ := List.takeWhile_prefix (l := key) (!softLetter ·)
    generalize len (p ++ q) - len key = n at hle
    conv => rhs; rw [← ht]
    rw [List.take_append_of_le_length hle]

/-- The keyword in ASCII letters of either case leaves nothing. -/
theorem leftover_ascii (hkey : Keyword key) (hk : toUppercase k = key) (ha : Ascii k) :
    leftover key k = [] := by
  have hlen : len k = len key := by
    rw [hkey.ascii.len_eq, ha.len_eq, ← hk, toUppercase_ascii ha, List.length_map]
  rw [leftover, hlen, Nat.sub_self, List.take_zero]

end Keyword

/-- A keyword in some ASCII letter case is ASCII text with the keyword as its
uppercase. -/
theorem isCaseOf_iff {key k : Text} (hkey : Ascii key) :
    IsCaseOf key k ↔ Ascii k ∧ toUppercase k = key := by
  constructor
  · intro h
    refine ⟨fun c hc => toNat_lt_of_toUpper (hkey _ ?_), toUppercase_of_isCaseOf hkey h⟩
    rw [← h]
    exact List.mem_map_of_mem hc
  · rintro ⟨ha, hk⟩
    rw [IsCaseOf, ← toUppercase_ascii ha, hk]

end DataFusionPanama
