/-!
# DataFusionPanama.Base.Quote

Quoted parts.  A sequence is scanned from left to right; a quote opens a
quoted part, which only the same quote closes, and the same quote right
behind the closing one re-enters the part.

`Scan` is the scanner with its states, outside and inside a part opened by
some quote, and `Balanced` says that it ends outside.  `Reading` is the same
scanner with the text of the part it is in (`scan_feed`); it yields the
`quotedParts` in order, a part that is re-entered as one part.

The lemmas are about taking quote-free text off the ends of a balanced
sequence: what is left is balanced and has the same quoted parts
(`Balanced.middle`), and what was taken off lies outside all of them
(`Balanced.liesOutside`).
-/

namespace DataFusionPanama.Quote

variable {α : Type} (isQuote : α → Bool)

/-! ## quote-free text -/

/-- Without quotes. -/
def Plain (l : List α) : Prop := ∀ c ∈ l, isQuote c = false

section Plain

variable {isQuote} {l m : List α}

/-- A text is plain when its parts are. -/
theorem plain_append : Plain isQuote (l ++ m) ↔ Plain isQuote l ∧ Plain isQuote m :=
  List.forall_mem_append

/-- A plain text is plain further on. -/
theorem Plain.tail {c : α} (h : Plain isQuote (c :: l)) : Plain isQuote l :=
  fun d hd => h d (List.mem_cons_of_mem c hd)

/-- A plain text is plain at its start. -/
theorem Plain.of_prefix (h : Plain isQuote m) (hl : l <+: m) : Plain isQuote l :=
  fun c hc => h c (hl.subset hc)

end Plain

/-! ## the scanner -/

variable [DecidableEq α]

/-- Outside, or inside a part opened by a quote. -/
inductive Scan (α : Type) where
  | outside
  | inside (quote : α)
  deriving DecidableEq, Repr

def Scan.next : Scan α → α → Scan α
  | .outside, c => if isQuote c then .inside c else .outside
  | .inside q, c => if c = q then .outside else .inside q

def scan (s : Scan α) (l : List α) : Scan α := l.foldl (Scan.next isQuote) s

/-- Every quoted part is closed. -/
def Balanced (l : List α) : Prop := scan isQuote .outside l = .outside

/-- Behind `before`, every place of `l` is outside the quoted parts. -/
def LiesOutside (before l : List α) : Prop :=
  ∀ l', l' <+: l → scan isQuote .outside (before ++ l') = .outside

/-- The scanner is inside parts opened by quotes only. -/
def Scan.Proper : Scan α → Prop
  | .outside => True
  | .inside q => isQuote q = true

/-! ## quoted parts -/

/-- The scanner with the part it is in; a part just closed may be entered
again. -/
inductive Reading (α : Type) where
  | outside
  | inside (quote : α) (part : List α)
  | closed (quote : α) (part : List α)

namespace Reading

/-- The state of the plain scanner. -/
def state : Reading α → Scan α
  | .outside | .closed _ _ => .outside
  | .inside q _ => .inside q

/-- One step: the part that has turned out to be complete, and the state. -/
def feed : Reading α → α → List (List α) × Reading α
  | .outside, c => ([], if isQuote c then .inside c [c] else .outside)
  | .inside q part, c => ([], if c = q then .closed q (part ++ [c]) else .inside q (part ++ [c]))
  | .closed q part, c =>
      if c = q then ([], .inside q (part ++ [c]))
      else ([part], if isQuote c then .inside c [c] else .outside)

def parts : Reading α → List α → List (List α)
  | .closed _ part, [] => [part]
  | _, [] => []
  | r, c :: l => (r.feed isQuote c).1 ++ parts (r.feed isQuote c).2 l

def Proper : Reading α → Prop
  | .outside => True
  | .inside q _ | .closed q _ => isQuote q = true

end Reading

/-- The quoted parts with their quotes, in order. -/
def quotedParts (l : List α) : List (List α) := Reading.parts isQuote .outside l

variable {isQuote}

/-! ## scanning quote-free text -/

/-- Outside of quotes, no quote is open. -/
theorem proper_outside {α : Type} {isQuote : α → Bool} :
    (Scan.outside : Scan α).Proper isQuote := trivial

/-- A scan goes on where it stopped. -/
theorem scan_append (s : Scan α) (l m : List α) :
    scan isQuote s (l ++ m) = scan isQuote (scan isQuote s l) m := List.foldl_append

/-- A quote that is open stays one of the quotes. -/
theorem proper_scan {s : Scan α} (hs : s.Proper isQuote) (l : List α) :
    (scan isQuote s l).Proper isQuote := by
  induction l generalizing s with
  | nil => exact hs
  | cons c l ih =>
      refine ih ?_
      cases s with
      | outside =>
          cases hc : isQuote c with
          | false => simp [Scan.next, hc, Scan.Proper]
          | true => simp [Scan.next, hc, Scan.Proper]
      | inside q =>
          by_cases hcq : c = q
          · simp [Scan.next, hcq, Scan.Proper]
          · simpa [Scan.next, hcq, Scan.Proper] using hs

/-- Quote-free text does not change the state. -/
theorem scan_plain {s : Scan α} (hs : s.Proper isQuote) {l : List α} (hl : Plain isQuote l) :
    scan isQuote s l = s := by
  induction l with
  | nil => rfl
  | cons c l ih =>
      have hc : isQuote c = false := hl c (by simp)
      have hnext : Scan.next isQuote s c = s := by
        cases s with
        | outside => simp [Scan.next, hc]
        | inside q =>
            have hcq : c ≠ q := fun he => by
              rw [he, (hs : isQuote q = true)] at hc
              contradiction
            simp [Scan.next, hcq]
      rw [scan, List.foldl_cons, hnext]
      exact ih hl.tail

/-- Quote-free text at the end of a balanced text lies outside its parts. -/
theorem Balanced.liesOutside {before l : List α} (h : Balanced isQuote (before ++ l))
    (hl : Plain isQuote l) : LiesOutside isQuote before l := by
  have hproper : (scan isQuote .outside before).Proper isQuote := proper_scan proper_outside before
  have hbefore : scan isQuote .outside before = .outside := by
    rw [← scan_plain hproper hl, ← scan_append]
    exact h
  intro l' hl'
  rw [scan_append, hbefore]
  exact scan_plain proper_outside (hl.of_prefix hl')

/-- So does quote-free text at its beginning. -/
theorem liesOutside_plain {l : List α} (hl : Plain isQuote l) : LiesOutside isQuote [] l :=
  fun _ hl' => scan_plain proper_outside (hl.of_prefix hl')

/-! ## reading quote-free text -/

namespace Reading

/-- Reading one character keeps that. -/
theorem proper_feed {r : Reading α} (hr : r.Proper isQuote) (c : α) :
    (r.feed isQuote c).2.Proper isQuote := by
  cases r with
  | outside => cases hc : isQuote c <;> simp [feed, hc, Proper]
  | inside q part => by_cases hcq : c = q <;> simpa [feed, hcq, Proper] using hr
  | closed q part =>
      by_cases hcq : c = q
      · simpa [feed, hcq, Proper] using hr
      · cases hc : isQuote c <;> simp [feed, hcq, hc, Proper]

/-- **A reading is the scanner with its text.** -/
theorem scan_feed {r : Reading α} (hr : r.Proper isQuote) (c : α) :
    (r.feed isQuote c).2.state = Scan.next isQuote r.state c := by
  cases r with
  | outside => cases hc : isQuote c <;> simp [feed, hc, state, Scan.next]
  | inside q part => by_cases hcq : c = q <;> simp [feed, hcq, state, Scan.next]
  | closed q part =>
      by_cases hcq : c = q
      · have hq : isQuote q = true := hr
        simp [feed, hcq, hq, state, Scan.next]
      · cases hc : isQuote c <;> simp [feed, hcq, hc, state, Scan.next]

/-- Quote-free text in front adds no part. -/
theorem parts_plain_append {l m : List α} (hl : Plain isQuote l) :
    parts isQuote .outside (l ++ m) = parts isQuote .outside m := by
  induction l with
  | nil => rfl
  | cons c l ih =>
      have hc : isQuote c = false := hl c (by simp)
      simp only [List.cons_append, parts, feed, hc]
      exact ih hl.tail

/-- Nor does quote-free text behind a balanced one. -/
theorem parts_append_plain {r : Reading α} (hr : r.Proper isQuote) {l m : List α}
    (hl : scan isQuote r.state l = .outside) (hm : Plain isQuote m) :
    parts isQuote r (l ++ m) = parts isQuote r l := by
  induction l generalizing r with
  | nil =>
      have hnil : parts isQuote .outside m = [] := by
        simpa [parts] using parts_plain_append (m := []) hm
      cases r with
      | outside => exact hnil
      | inside q part => cases hl
      | closed q part =>
          cases m with
          | nil => rfl
          | cons c m =>
              have hc : isQuote c = false := hm c (by simp)
              have hcq : c ≠ q := fun he => by
                rw [he, (hr : isQuote q = true)] at hc
                contradiction
              have hrest : parts isQuote .outside m = [] := by
                simpa [parts] using parts_plain_append (m := []) hm.tail
              simp [parts, feed, hcq, hc, hrest]
  | cons c l ih =>
      have hfeed : scan isQuote (r.feed isQuote c).2.state l = .outside := by
        rw [scan_feed hr]
        exact hl
      have hrec := ih (proper_feed hr c) hfeed
      cases r <;> simp only [List.cons_append, parts, hrec]

end Reading

/-- **Taking quote-free text off both ends** of a balanced text leaves a
balanced text with the same quoted parts. -/
theorem Balanced.middle {pre m post : List α} (h : Balanced isQuote (pre ++ m ++ post))
    (hpre : Plain isQuote pre) (hpost : Plain isQuote post) :
    Balanced isQuote m ∧ quotedParts isQuote m = quotedParts isQuote (pre ++ m ++ post) := by
  have hm : Balanced isQuote m := by
    have hfront := h.liesOutside hpost [] List.nil_prefix
    rw [List.append_nil, scan_append, scan_plain proper_outside hpre] at hfront
    exact hfront
  refine ⟨hm, ?_⟩
  rw [quotedParts, quotedParts, List.append_assoc, Reading.parts_plain_append hpre,
    Reading.parts_append_plain (r := .outside) trivial hm hpost]

end DataFusionPanama.Quote
