import DataFusionPanama.Base.CaseMap

/-!
# DataFusionPanama.Base.Utf

The three representations a string takes between a JVM and native code:
UTF-16 code units (which may hold unpaired surrogates), UTF-8 bytes, and
NUL-terminated UTF-8 (which may not hold a NUL).

* `utf8` / `fromUtf8` — UTF-8 over Lean's own `String.utf8EncodeChar` and
  `ByteArray.utf8Decode?`, as lists of bytes.
* `decodeUtf16` / `encodeUtf16` — UTF-16, decoding with a replacement for
  unpaired surrogates.
* `cStrBytes` — what a reader of a NUL-terminated string sees: the bytes in
  front of the first NUL.
-/

namespace DataFusionPanama

/-- The character NUL, which no C string holds. -/
def nul : Char := '\x00'

/-! ## UTF-8 -/

/-- UTF-8 encoding of a text. -/
def utf8 (s : Text) : List UInt8 := s.flatMap String.utf8EncodeChar

/-- UTF-8 decoding; `none` on malformed input. -/
def fromUtf8 (bs : List UInt8) : Option Text := (bs.toByteArray.utf8Decode?).map Array.toList

@[simp] theorem utf8_cons (c : Char) (s : Text) :
    utf8 (c :: s) = String.utf8EncodeChar c ++ utf8 s := rfl

/-- What is written as UTF-8 is read back. -/
@[simp] theorem fromUtf8_utf8 (s : Text) : fromUtf8 (utf8 s) = some s := by
  have h : (utf8 s).toByteArray = s.utf8Encode := rfl
  rw [fromUtf8, h, List.utf8Decode?_utf8Encode]
  rfl

/-- Only NUL itself is encoded with a zero byte. -/
theorem zero_notMem_utf8EncodeChar {c : Char} (h : c ≠ nul) :
    (0 : UInt8) ∉ String.utf8EncodeChar c := by
  have hv : c.val.toNat ≠ 0 := fun h0 => h (Char.ext (UInt32.toNat_inj.mp (by rw [h0]; rfl)))
  have hofNat : ∀ n : Nat, 0 < n → n < 256 → (0 : UInt8) ≠ UInt8.ofNat n := by
    intro n hpos hlt h0
    have h0' := congrArg UInt8.toNat h0
    rw [UInt8.toNat_ofNat', Nat.mod_eq_of_lt hlt] at h0'
    simp at h0'
    omega
  unfold String.utf8EncodeChar
  simp only
  split
  · simp only [List.mem_singleton]
    exact hofNat _ (by omega) (by omega)
  · split
    · simp only [List.mem_cons, List.not_mem_nil, or_false, not_or]
      exact ⟨hofNat _ (by omega) (by omega), hofNat _ (by omega) (by omega)⟩
    · split
      · simp only [List.mem_cons, List.not_mem_nil, or_false, not_or]
        exact ⟨hofNat _ (by omega) (by omega), hofNat _ (by omega) (by omega),
          hofNat _ (by omega) (by omega)⟩
      · simp only [List.mem_cons, List.not_mem_nil, or_false, not_or]
        exact ⟨hofNat _ (by omega) (by omega), hofNat _ (by omega) (by omega),
          hofNat _ (by omega) (by omega), hofNat _ (by omega) (by omega)⟩

/-- U+0000 is one zero byte. -/
theorem utf8EncodeChar_nul : String.utf8EncodeChar nul = [0] := by decide

/-- A text has a zero byte exactly when it has a NUL. -/
theorem zero_mem_utf8_iff {s : Text} : (0 : UInt8) ∈ utf8 s ↔ nul ∈ s := by
  unfold utf8
  rw [List.mem_flatMap]
  constructor
  · rintro ⟨c, hc, h0⟩
    by_cases hn : c = nul
    · exact hn ▸ hc
    · exact absurd h0 (zero_notMem_utf8EncodeChar hn)
  · intro h
    exact ⟨nul, h, by rw [utf8EncodeChar_nul]; exact List.mem_singleton.mpr rfl⟩

/-! ## NUL-terminated strings -/

/-- The bytes in front of the first NUL: what `CStr::from_ptr` delimits. -/
def cStrBytes (bs : List UInt8) : List UInt8 := bs.takeWhile (· != 0)

/-- `CString`: bytes without a NUL. -/
structure CString where
  bytes : List UInt8
  nulFree : (0 : UInt8) ∉ bytes
  deriving DecidableEq

/-- `CString::new` -/
def CString.new (bytes : List UInt8) : Option CString :=
  if h : (0 : UInt8) ∈ bytes then none else some ⟨bytes, h⟩

/-- The characters in front of the first NUL. -/
def beforeNul (s : Text) : Text := s.takeWhile (· != nul)

/-- There is no NUL in front of the first one. -/
theorem nul_notMem_beforeNul (s : Text) : nul ∉ beforeNul s := fun h => by
  have hall : (beforeNul s).all (· != nul) = true := List.all_takeWhile
  simpa using List.all_eq_true.mp hall nul h

/-- A text without a NUL is all in front of it. -/
theorem beforeNul_eq_self {s : Text} (h : nul ∉ s) : beforeNul s = s := by
  induction s with
  | nil => rfl
  | cons c s ih =>
      rw [List.mem_cons, not_or] at h
      rw [beforeNul, List.takeWhile_cons, if_pos (by simpa using Ne.symm h.1)]
      exact congrArg (c :: ·) (ih h.2)

/-- The part in front of the first NUL, the NUL, and the rest. -/
theorem beforeNul_append {s : Text} (h : nul ∈ s) : ∃ rest, s = beforeNul s ++ nul :: rest := by
  induction s with
  | nil => contradiction
  | cons c s ih =>
      rw [beforeNul, List.takeWhile_cons]
      by_cases hc : c = nul
      · exact ⟨s, by simp [hc]⟩
      · have hs : nul ∈ s := by
          rcases List.mem_cons.mp h with he | hs
          · exact absurd he.symm hc
          · exact hs
        obtain ⟨rest, hrest⟩ := ih hs
        rw [if_pos (by simpa using hc)]
        exact ⟨rest, congrArg (c :: ·) hrest⟩

/-- A terminated encoding is the encoding up to the first NUL, terminated,
and something nobody reads. -/
theorem utf8_terminated (s : Text) :
    ∃ rest, utf8 s ++ [0] = utf8 (beforeNul s) ++ 0 :: rest := by
  induction s with
  | nil => exact ⟨[], rfl⟩
  | cons c s ih =>
      by_cases hc : c = nul
      · subst hc
        exact ⟨utf8 s ++ [0], by rw [utf8_cons, utf8EncodeChar_nul]; rfl⟩
      · obtain ⟨rest, hrest⟩ := ih
        have hbefore : beforeNul (c :: s) = c :: beforeNul s := by
          rw [beforeNul, List.takeWhile_cons, if_pos (by simpa using hc)]
          rfl
        exact ⟨rest, by rw [hbefore, utf8_cons, utf8_cons, List.append_assoc, hrest,
          List.append_assoc]⟩

/-! ## UTF-16 -/

def isHighSurrogate (u : UInt16) : Bool := 0xD800 ≤ u.toNat && u.toNat ≤ 0xDBFF

def isLowSurrogate (u : UInt16) : Bool := 0xDC00 ≤ u.toNat && u.toNat ≤ 0xDFFF

/-- The code point of a surrogate pair. -/
def ofSurrogates (hi lo : UInt16) : Char :=
  Char.ofNat (0x10000 + (hi.toNat - 0xD800) * 0x400 + (lo.toNat - 0xDC00))

/-- Decode UTF-16; every unpaired surrogate becomes `sub`. -/
def decodeUtf16 (sub : Char) : List UInt16 → Text
  | [] => []
  | [u] => [if isHighSurrogate u || isLowSurrogate u then sub else Char.ofNat u.toNat]
  | u :: v :: s =>
      if isHighSurrogate u then
        if isLowSurrogate v then ofSurrogates u v :: decodeUtf16 sub s
        else sub :: decodeUtf16 sub (v :: s)
      else if isLowSurrogate u then sub :: decodeUtf16 sub (v :: s)
      else Char.ofNat u.toNat :: decodeUtf16 sub (v :: s)

/-- The one or two code units of a character. -/
def utf16EncodeChar (c : Char) : List UInt16 :=
  if c.toNat < 0x10000 then [UInt16.ofNat c.toNat]
  else [UInt16.ofNat (0xD800 + (c.toNat - 0x10000) / 0x400),
    UInt16.ofNat (0xDC00 + (c.toNat - 0x10000) % 0x400)]

def encodeUtf16 (s : Text) : List UInt16 := s.flatMap utf16EncodeChar

/-- Some surrogate of the string is not part of a pair. -/
def hasUnpairedSurrogate : List UInt16 → Bool
  | [] => false
  | [u] => isHighSurrogate u || isLowSurrogate u
  | u :: v :: s =>
      if isHighSurrogate u then
        if isLowSurrogate v then hasUnpairedSurrogate s else true
      else if isLowSurrogate u then true
      else hasUnpairedSurrogate (v :: s)

@[simp] theorem encodeUtf16_cons (c : Char) (s : Text) :
    encodeUtf16 (c :: s) = utf16EncodeChar c ++ encodeUtf16 s := rfl

private theorem uint16_lt (u : UInt16) : u.toNat < 0x10000 := u.toNat_lt

/-- A code unit outside the surrogates is one character, and encodes back. -/
theorem utf16EncodeChar_ofNat {u : UInt16} (hh : isHighSurrogate u = false)
    (hl : isLowSurrogate u = false) : utf16EncodeChar (Char.ofNat u.toNat) = [u] := by
  have hlt := uint16_lt u
  have hvalid : u.toNat.isValidChar := by
    simp only [isHighSurrogate, isLowSurrogate, Bool.and_eq_false_iff, decide_eq_false_iff_not,
      Nat.not_le] at hh hl
    unfold Nat.isValidChar
    omega
  rw [utf16EncodeChar, toNat_charOfNat hvalid, if_pos hlt, UInt16.ofNat_toNat]

/-- A surrogate pair is one character, and encodes back. -/
theorem utf16EncodeChar_ofSurrogates {u v : UInt16} (hu : isHighSurrogate u = true)
    (hv : isLowSurrogate v = true) : utf16EncodeChar (ofSurrogates u v) = [u, v] := by
  simp only [isHighSurrogate, isLowSurrogate, Bool.and_eq_true, decide_eq_true_eq] at hu hv
  have hvalid : (0x10000 + (u.toNat - 0xD800) * 0x400 + (v.toNat - 0xDC00)).isValidChar := by
    unfold Nat.isValidChar
    omega
  rw [utf16EncodeChar, ofSurrogates, toNat_charOfNat hvalid, if_neg (by omega)]
  have hhi : 0xD800 + (0x10000 + (u.toNat - 0xD800) * 0x400 + (v.toNat - 0xDC00) - 0x10000) / 0x400
      = u.toNat := by omega
  have hlo : 0xDC00 + (0x10000 + (u.toNat - 0xD800) * 0x400 + (v.toNat - 0xDC00) - 0x10000) % 0x400
      = v.toNat := by omega
  rw [hhi, hlo, UInt16.ofNat_toNat, UInt16.ofNat_toNat]

/-- Decoding and encoding again keeps the number of code units, when the
substitute is one unit wide. -/
theorem length_encodeUtf16_decodeUtf16 {sub : Char} (hsub : (utf16EncodeChar sub).length = 1)
    (js : List UInt16) : (encodeUtf16 (decodeUtf16 sub js)).length = js.length := by
  induction js using decodeUtf16.induct with
  | case1 => rfl
  | case2 u =>
      rw [decodeUtf16]
      split
      · simpa [encodeUtf16] using hsub
      · next h =>
        rw [Bool.not_eq_true, Bool.or_eq_false_iff] at h
        rw [encodeUtf16_cons, utf16EncodeChar_ofNat h.1 h.2]
        rfl
  | case3 u v s hu hv ih =>
      rw [decodeUtf16, if_pos hu, if_pos hv, encodeUtf16_cons,
        utf16EncodeChar_ofSurrogates hu hv, List.length_append, ih]
      simp only [List.length_cons, List.length_nil]
      omega
  | case4 u v s hu hv ih =>
      rw [decodeUtf16, if_pos hu, if_neg hv, encodeUtf16_cons, List.length_append, hsub, ih]
      simp only [List.length_cons]
      omega
  | case5 u v s hu hl ih =>
      rw [decodeUtf16, if_neg hu, if_pos hl, encodeUtf16_cons, List.length_append, hsub, ih]
      simp only [List.length_cons]
      omega
  | case6 u v s hu hl ih =>
      rw [decodeUtf16, if_neg hu, if_neg hl, encodeUtf16_cons,
        utf16EncodeChar_ofNat (by simpa using hu) (by simpa using hl), List.length_append, ih]
      simp only [List.length_cons, List.length_nil]
      omega

/-- A substitute that is no surrogate does not encode back to one. -/
private theorem encodeUtf16_sub_ne {sub : Char} {w u : UInt16} (hw : utf16EncodeChar sub = [w])
    (hsub : isHighSurrogate w = false ∧ isLowSurrogate w = false)
    (hu : isHighSurrogate u = true ∨ isLowSurrogate u = true) (s : Text) (js : List UInt16) :
    encodeUtf16 (sub :: s) ≠ u :: js := by
  intro he
  rw [encodeUtf16_cons, hw, List.singleton_append, List.cons.injEq] at he
  obtain ⟨rfl, -⟩ := he
  simp [hsub.1, hsub.2] at hu

/-- A string is recovered from its decoding exactly when every surrogate is
paired. -/
theorem encodeUtf16_decodeUtf16_iff {sub : Char}
    (hsub : ∀ u, utf16EncodeChar sub = [u] → isHighSurrogate u = false ∧ isLowSurrogate u = false)
    (hlen : (utf16EncodeChar sub).length = 1) (js : List UInt16) :
    encodeUtf16 (decodeUtf16 sub js) = js ↔ hasUnpairedSurrogate js = false := by
  obtain ⟨w, hw⟩ := List.length_eq_one_iff.mp hlen
  have hw' := hsub w hw
  induction js using decodeUtf16.induct with
  | case1 => simp [decodeUtf16, encodeUtf16, hasUnpairedSurrogate]
  | case2 u =>
      rw [decodeUtf16, hasUnpairedSurrogate]
      by_cases hu : (isHighSurrogate u || isLowSurrogate u) = true
      · rw [if_pos hu, hu]
        simpa using encodeUtf16_sub_ne hw hw' (by simpa using hu) [] []
      · rw [if_neg hu]
        rw [Bool.not_eq_true] at hu
        have hu' := hu
        rw [Bool.or_eq_false_iff] at hu'
        rw [encodeUtf16_cons, utf16EncodeChar_ofNat hu'.1 hu'.2, hu]
        simp [encodeUtf16]
  | case3 u v s hu hv ih =>
      rw [decodeUtf16, if_pos hu, if_pos hv, encodeUtf16_cons, utf16EncodeChar_ofSurrogates hu hv,
        hasUnpairedSurrogate, if_pos hu, if_pos hv]
      simpa using ih
  | case4 u v s hu hv ih =>
      rw [decodeUtf16, if_pos hu, if_neg hv, hasUnpairedSurrogate, if_pos hu, if_neg hv]
      simpa using encodeUtf16_sub_ne hw hw' (.inl hu) (decodeUtf16 sub (v :: s)) (v :: s)
  | case5 u v s hu hl ih =>
      rw [decodeUtf16, if_neg hu, if_pos hl, hasUnpairedSurrogate, if_neg hu, if_pos hl]
      simpa using encodeUtf16_sub_ne hw hw' (.inr hl) (decodeUtf16 sub (v :: s)) (v :: s)
  | case6 u v s hu hl ih =>
      rw [decodeUtf16, if_neg hu, if_neg hl, encodeUtf16_cons,
        utf16EncodeChar_ofNat (by simpa using hu) (by simpa using hl), hasUnpairedSurrogate,
        if_neg hu, if_neg hl]
      simpa using ih

/-- UTF-16 is written part by part. -/
@[simp] theorem encodeUtf16_append (s t : Text) :
    encodeUtf16 (s ++ t) = encodeUtf16 s ++ encodeUtf16 t := List.flatMap_append

/-- Only the zero unit is U+0000. -/
private theorem nul_eq_ofNat_iff {u : UInt16} (hh : isHighSurrogate u = false)
    (hl : isLowSurrogate u = false) : nul = Char.ofNat u.toNat ↔ (0 : UInt16) = u := by
  constructor
  · intro he
    have he' := utf16EncodeChar_ofNat hh hl
    rw [← he] at he'
    exact (List.cons.inj he').1
  · rintro rfl
    rfl

/-- A pair encodes to two code units, NUL to one. -/
private theorem nul_ne_ofSurrogates {u v : UInt16} (hu : isHighSurrogate u = true)
    (hv : isLowSurrogate v = true) : nul ≠ ofSurrogates u v := by
  intro he
  have he' := utf16EncodeChar_ofSurrogates hu hv
  rw [← he] at he'
  have hlen : (utf16EncodeChar nul).length = 2 := congrArg List.length he'
  exact absurd hlen (by decide)

/-- No surrogate is the zero unit. -/
private theorem zero_ne_of_surrogate {u : UInt16}
    (hu : isHighSurrogate u = true ∨ isLowSurrogate u = true) : (0 : UInt16) ≠ u := by
  rintro rfl
  exact absurd hu (by decide)

/-- Decoding introduces no NUL and loses none. -/
theorem nul_mem_decodeUtf16_iff {sub : Char} (hsub : sub ≠ nul) (js : List UInt16) :
    nul ∈ decodeUtf16 sub js ↔ (0 : UInt16) ∈ js := by
  induction js using decodeUtf16.induct with
  | case1 => simp [decodeUtf16]
  | case2 u =>
      rw [decodeUtf16, List.mem_singleton, List.mem_singleton]
      split
      · next h =>
        rw [Bool.or_eq_true] at h
        exact ⟨fun he => absurd he.symm hsub, fun he => absurd he (zero_ne_of_surrogate h)⟩
      · next h =>
        rw [Bool.not_eq_true, Bool.or_eq_false_iff] at h
        exact nul_eq_ofNat_iff h.1 h.2
  | case3 u v s hu hv ih =>
      rw [decodeUtf16, if_pos hu, if_pos hv]
      simp [nul_ne_ofSurrogates hu hv, zero_ne_of_surrogate (.inl hu),
        zero_ne_of_surrogate (.inr hv), ih]
  | case4 u v s hu hv ih =>
      rw [decodeUtf16, if_pos hu, if_neg hv]
      simp [Ne.symm hsub, zero_ne_of_surrogate (.inl hu), ih]
  | case5 u v s hu hl ih =>
      rw [decodeUtf16, if_neg hu, if_pos hl]
      simp [Ne.symm hsub, zero_ne_of_surrogate (.inr hl), ih]
  | case6 u v s hu hl ih =>
      rw [decodeUtf16, if_neg hu, if_neg hl]
      have hu' := nul_eq_ofNat_iff (u := u) (by simpa using hu) (by simpa using hl)
      exact List.mem_cons.trans ((or_congr hu' ih).trans List.mem_cons.symm)

end DataFusionPanama
