import Mathlib.Data.List.Forall2
import DataFusionPanama.Native.Ffi

/-!
# DataFusionPanama.Native.Strings

String arguments, seen from the native side.  A string reaches Rust as an
address behind which NUL-terminated bytes lie (`CStrAt`), an array as an
address and a length (`CStrArrayAt`).  What Rust reads there depends on the
bytes alone: `cStr_eq` and `parseCStrArray_eq` replace an address by the C
string behind it.

`CString.ofText` is the C string a terminated copy of a text holds, and
`toStr_ofText` says which text Rust makes of it: the one in front of the
first NUL.
-/

namespace DataFusionPanama

variable {T : Types}

/-- `CStr::to_str` -/
def CString.toStr (E : Engine T) (s : CString) : Outcome Text :=
  match fromUtf8 s.bytes with
  | some t => pure t
  | none => throw (.err (E.utf8Error s.bytes))

/-- The C string in front of the first NUL of a text's encoding. -/
def CString.ofText (t : Text) : CString where
  bytes := utf8 (beforeNul t)
  nulFree h := nul_notMem_beforeNul t (zero_mem_utf8_iff.mp h)

/-- A text is read back up to its first NUL. -/
theorem toStr_ofText (E : Engine T) (t : Text) :
    (CString.ofText t).toStr E = pure (beforeNul t) := by
  rw [CString.toStr, CString.ofText]
  simp only [fromUtf8_utf8]

/-- So is every text of an array. -/
theorem mapM_toStr_ofText (E : Engine T) (ts : List Text) :
    (ts.map CString.ofText).mapM (CString.toStr E) = pure (ts.map beforeNul) := by
  induction ts with
  | nil => rfl
  | cons t ts ih =>
      rw [List.map_cons, List.mapM_cons, toStr_ofText, pure_bind, ih]
      rfl

/-! ## strings in memory -/

/-- The C string is stored at the address, terminated. -/
def CStrAt (mem : Mem) (p : Addr) (s : CString) : Prop :=
  ∃ rest, mem.get? p = some (.bytes (s.bytes ++ 0 :: rest))

/-- The C strings are stored behind an array of their addresses. -/
def CStrArrayAt (mem : Mem) (a : StrArray) (ss : List CString) : Prop :=
  ∃ ps, mem.get? a.1 = some (.pointers ps) ∧ a.2 = ps.length ∧ List.Forall₂ (CStrAt mem) ps ss

/-- Nothing is stored at the null address. -/
private theorem ne_null_of_get? {mem : Mem} {p : Addr} {x : Segment} (h : mem.get? p = some x) :
    p ≠ 0 := by
  rintro rfl
  contradiction

/-- No string is at the null address. -/
theorem CStrAt.ne_null {mem : Mem} {p : Addr} {s : CString} (h : CStrAt mem p s) : p ≠ 0 :=
  ne_null_of_get? h.choose_spec

/-- Nor is an array. -/
theorem CStrArrayAt.ne_null {mem : Mem} {a : StrArray} {ss : List CString}
    (h : CStrArrayAt mem a ss) : a.1 ≠ 0 :=
  ne_null_of_get? h.choose_spec.1

/-- The bytes in front of the terminator are all that is read. -/
theorem cStrBytes_append {bs rest : List UInt8} (h : (0 : UInt8) ∉ bs) :
    cStrBytes (bs ++ 0 :: rest) = bs := by
  rw [cStrBytes, List.takeWhile_append_of_pos]
  · simp
  · intro b hb
    have hb0 : b ≠ 0 := fun he => h (he ▸ hb)
    simpa using hb0

/-- A stored string is read as it is. -/
theorem cStr_eq {E : Engine T} {mem : Mem} {p : Addr} {s : CString} (h : CStrAt mem p s) :
    cStr E mem p = s.toStr E := by
  obtain ⟨rest, hp⟩ := h
  simp only [cStr, hp, List.mem_append, List.mem_cons, true_or, or_true, if_true,
    cStrBytes_append s.nulFree]
  rfl

/-- **An array is read element by element**, in order and to its length. -/
theorem parseCStrArray_eq {E : Engine T} {mem : Mem} {a : StrArray} {ss : List CString}
    (h : CStrArrayAt mem a ss) : parseCStrArray E mem a.1 a.2 = ss.mapM (CString.toStr E) := by
  obtain ⟨ps, hp, hlen, hall⟩ := h
  have hslice : fromRawParts E mem a.1 a.2 = pure ps := by
    rw [fromRawParts, hlen]
    cases ps with
    | nil => rfl
    | cons p ps => simp [hp]
  rw [parseCStrArray, hslice, pure_bind]
  clear hp hlen hslice
  induction hall with
  | nil => rfl
  | cons hps _ ih =>
      rw [List.mapM_cons, List.mapM_cons, assertNotNull_of_ne hps.ne_null, pure_bind, cStr_eq hps,
        ih]

/-! ## growing memory -/

/-- Nothing stored is lost. -/
def Mem.Ext (mem mem' : Mem) : Prop := ∀ p x, mem.get? p = some x → mem'.get? p = some x

/-- Nothing has been stored. -/
theorem Mem.Ext.refl (mem : Mem) : Mem.Ext mem mem := fun _ _ h => h

/-- Nothing is lost in two steps of which neither loses anything. -/
theorem Mem.Ext.trans {a b c : Mem} (h : Mem.Ext a b) (h' : Mem.Ext b c) : Mem.Ext a c :=
  fun p x hp => h' p x (h p x hp)

/-- An allocation loses nothing. -/
theorem Mem.ext_alloc (mem : Mem) (x : Segment) : Mem.Ext mem (mem.alloc x).2 :=
  fun _ _ hp => Store.get?_alloc_of_some hp

/-- A stored string stays where it is. -/
theorem CStrAt.ext {mem mem' : Mem} {p : Addr} {s : CString} (he : Mem.Ext mem mem')
    (h : CStrAt mem p s) : CStrAt mem' p s := h.imp fun _ hp => he _ _ hp

/-- So does an array with its strings. -/
theorem CStrArrayAt.ext {mem mem' : Mem} {a : StrArray} {ss : List CString}
    (he : Mem.Ext mem mem') (h : CStrArrayAt mem a ss) : CStrArrayAt mem' a ss := by
  obtain ⟨ps, hp, hlen, hall⟩ := h
  exact ⟨ps, he _ _ hp, hlen, hall.imp fun _ _ hs => hs.ext he⟩

end DataFusionPanama
