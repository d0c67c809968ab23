/-!
# DataFusionPanama.Base.Run

Runs of a step function.  A run is a list of inputs folded over a state, so
an invariant of its end is `List.foldlRecOn`.  `AllSteps` is what a run has
when every one of its steps, taken in the state it is taken in, has some
property; with an invariant at hand it is enough to look at one step.

Two step functions on the same inputs simulate each other forward when what
is seen of one step is the same on both sides; `observations_eq` says that
whole runs then look the same.
-/

namespace DataFusionPanama

variable {σ ι : Type} (step : σ → ι → σ)

/-- Every step of a run from a state has a property, which may speak of the
state before the step and of its input. -/
def AllSteps (P : σ → ι → Prop) : σ → List ι → Prop
  | _, [] => True
  | s, i :: is => P s i ∧ AllSteps P (step s i) is

variable {step} {I : σ → Prop} {R R' : σ → ι → Prop}

/-- The steps of a run are what its prefixes lead up to. -/
theorem allSteps_iff {s : σ} {is : List ι} :
    AllSteps step R s is ↔
      ∀ before i after, is = before ++ i :: after → R (before.foldl step s) i := by
  induction is generalizing s with
  | nil => simp [AllSteps]
  | cons j js ih =>
      rw [AllSteps, ih]
      refine ⟨fun ⟨hj, hjs⟩ before i after h => ?_, fun h => ⟨h [] j js rfl, ?_⟩⟩
      · cases before with
        | nil => cases h; exact hj
        | cons b before => cases h; exact hjs before i after rfl
      · rintro before i after rfl
        exact h (j :: before) i after rfl

/-- The steps of a prefix are among the steps of the run. -/
theorem AllSteps.of_prefix {s : σ} {before is : List ι} (h : AllSteps step R s is)
    (hb : before <+: is) : AllSteps step R s before := by
  obtain ⟨after, rfl⟩ := hb
  rw [allSteps_iff] at h ⊢
  rintro b i a rfl
  exact h b i (a ++ after) (by simp)

/-- A run in two parts. -/
theorem allSteps_append {s : σ} {is js : List ι} :
    AllSteps step R s (is ++ js) ↔ AllSteps step R s is ∧ AllSteps step R (is.foldl step s) js := by
  induction is generalizing s with
  | nil => simp [AllSteps]
  | cons i is ih => simp [AllSteps, ih, and_assoc]

/-- An invariant of the steps of a certain kind holds after a run of them. -/
theorem AllSteps.invariant (hI : ∀ s i, I s → R s i → I (step s i)) {s : σ} {is : List ι}
    (h : AllSteps step R s is) (hs : I s) : I (is.foldl step s) := by
  induction is generalizing s with
  | nil => exact hs
  | cons i is ih => exact ih h.2 (hI s i hs h.1)

/-- What holds of every step from a state the invariant allows holds of all
steps of a run. -/
theorem allSteps_of_invariant (hI : ∀ s i, I s → I (step s i)) (hR : ∀ s i, I s → R s i) {s : σ}
    (hs : I s) (is : List ι) : AllSteps step R s is := by
  induction is generalizing s with
  | nil => trivial
  | cons i is ih => exact ⟨hR s i hs, ih (hI s i hs)⟩

/-- Two properties that agree under an invariant of the steps that have them
agree on runs. -/
theorem allSteps_congr (hI : ∀ s i, I s → R s i → I (step s i))
    (hR : ∀ s i, I s → (R s i ↔ R' s i)) {s : σ} (hs : I s) (is : List ι) :
    AllSteps step R s is ↔ AllSteps step R' s is := by
  induction is generalizing s with
  | nil => exact Iff.rfl
  | cons i is ih =>
      rw [AllSteps, AllSteps, ← hR s i hs]
      exact and_congr_right fun h => ih (hI s i hs h)

/-- A run is safe throughout exactly when all of its steps are of the kind
that keeps a safe state safe. -/
theorem safe_iff_allSteps {Safe : σ → Prop} (hI : ∀ s i, I s → I (step s i))
    (hR : ∀ s i, I s → Safe s → (Safe (step s i) ↔ R s i)) {s : σ} (hs : I s) (h0 : Safe s)
    (is : List ι) :
    (∀ before, before <+: is → Safe (before.foldl step s)) ↔ AllSteps step R s is := by
  induction is generalizing s with
  | nil => simpa [AllSteps] using h0
  | cons i is ih =>
      rw [AllSteps, ← hR s i hs h0]
      constructor
      · intro h
        have h1 : Safe (step s i) := h [i] (by simp)
        refine ⟨h1, (ih (hI s i hs) h1).mp fun before hb => h (i :: before) ?_⟩
        exact List.cons_prefix_cons.mpr ⟨rfl, hb⟩
      · rintro ⟨h1, hall⟩ before hb
        cases before with
        | nil => exact h0
        | cons j before =>
            obtain ⟨rfl, hrest⟩ := List.cons_prefix_cons.mp hb
            exact (ih (hI s j hs) h1).mpr hall before hrest

/-! ## simulation -/

/-- What is seen along a run. -/
def observations {ω : Type} (step : σ → ι → σ) (see : σ → ι → ω) : σ → List ι → List ω
  | _, [] => []
  | s, i :: is => see s i :: observations step see (step s i) is

section Simulation

variable {τ ω : Type} {step' : τ → ι → τ} {see : σ → ι → ω} {see' : τ → ι → ω} {Rel : σ → τ → Prop}
  {P : τ → ι → Prop}

/-- **Forward simulation**, of runs whose steps are of a certain kind on the
one side: both sides show the same, and end in related states. -/
theorem observations_eq
    (hstep : ∀ s t i, Rel s t → P t i → see s i = see' t i ∧ Rel (step s i) (step' t i))
    {s : σ} {t : τ} (h : Rel s t) {is : List ι} (hP : AllSteps step' P t is) :
    observations step see s is = observations step' see' t is ∧
      Rel (is.foldl step s) (is.foldl step' t) := by
  induction is generalizing s t with
  | nil => exact ⟨rfl, h⟩
  | cons i is ih =>
      obtain ⟨hsee, hnext⟩ := hstep s t i h hP.1
      obtain ⟨hrest, hend⟩ := ih hnext hP.2
      exact ⟨by rw [observations, observations, hsee, hrest], hend⟩

end Simulation

/-! ## ledgers -/

/-- **What a run adds to a ledger** is what its steps add, one after the
other. -/
theorem ledger_foldl {ε : Type} (ledger : σ → List ε) {adds : σ → ι → List ε}
    (hI : ∀ s i, I s → I (step s i))
    (hadds : ∀ s i, I s → ledger (step s i) = ledger s ++ adds s i) {s : σ} (hs : I s)
    (is : List ι) :
    ledger (is.foldl step s) = ledger s ++ (observations step adds s is).flatten := by
  induction is generalizing s with
  | nil => simp [observations]
  | cons i is ih =>
      rw [List.foldl_cons, ih (hI s i hs), hadds s i hs, observations, List.flatten_cons,
        List.append_assoc]

/-! ## runs that carry more along -/

section Map

variable {τ κ ω : Type} (f : τ → σ) (g : κ → ι) {step' : τ → κ → τ} {see : σ → ι → ω}

/-- What is seen of a run, through a map of the states. -/
theorem observations_map (hstep : ∀ t k, f (step' t k) = step (f t) (g k)) (t : τ) (ks : List κ) :
    observations step see (f t) (ks.map g) =
      observations step' (fun t k => see (f t) (g k)) t ks := by
  induction ks generalizing t with
  | nil => rfl
  | cons k ks ih => rw [List.map_cons, observations, observations, ← hstep, ih]

/-- What holds of all steps, through a map of the states. -/
theorem allSteps_map (hstep : ∀ t k, f (step' t k) = step (f t) (g k)) (t : τ) (ks : List κ) :
    AllSteps step R (f t) (ks.map g) ↔ AllSteps step' (fun t k => R (f t) (g k)) t ks := by
  induction ks generalizing t with
  | nil => exact Iff.rfl
  | cons k ks ih => rw [List.map_cons, AllSteps, AllSteps, ← hstep, ih]

end Map

/-- Two things that hold of all steps. -/
theorem AllSteps.and {s : σ} {is : List ι} (h : AllSteps step R s is) (h' : AllSteps step R' s is) :
    AllSteps step (fun s i => R s i ∧ R' s i) s is := by
  induction is generalizing s with
  | nil => trivial
  | cons i is ih => exact ⟨⟨h.1, h'.1⟩, ih h.2 h'.2⟩

/-! ## erasing steps -/

/-- What is seen of the steps of a run that are not silent. -/
def visible {ω : Type} (silent : ι → Bool) (step : σ → ι → σ) (see : σ → ι → ω) (s : σ)
    (is : List ι) : List ω :=
  ((is.zip (observations step see s is)).filter fun x => !silent x.1).map Prod.snd

/-- What is left of a run without its silent steps, each of the others as it
looks from the state it is taken in. -/
def project {κ : Type} (silent : ι → Bool) (step : σ → ι → σ) (view : σ → ι → κ) :
    σ → List ι → List κ
  | _, [] => []
  | s, i :: is => (if silent i then [] else [view s i]) ++ project silent step view (step s i) is

section Erasure

variable {τ κ ω : Type} {silent : ι → Bool} {view : σ → ι → κ} {step' : τ → κ → τ}
  {see : σ → ι → ω} {see' : τ → κ → ω} {Rel : σ → τ → Prop} {P : σ → ι → Prop} {P' : τ → κ → Prop}

/-- A silent first step shows nothing. -/
theorem visible_cons (s : σ) (i : ι) (is : List ι) :
    visible silent step see s (i :: is) =
      (if silent i then [] else [see s i]) ++ visible silent step see (step s i) is := by
  cases h : silent i <;> simp [visible, observations, h]

/-- Steps that look the same from everywhere. -/
theorem project_eq_filter (s : σ) (is : List ι) :
    project silent step (fun _ i => i) s is = is.filter fun i => !silent i := by
  induction is generalizing s with
  | nil => rfl
  | cons i is ih => cases h : silent i <;> simp [project, ih, h]

/-- **Silent steps can be left out** of a run, if a state is as good as any
it leads to by them. -/
theorem visible_eq_observations
    (hsilent : ∀ s t i, Rel s t → P s i → silent i = true → Rel (step s i) t)
    (hstep : ∀ s t i, Rel s t → P s i → silent i = false →
      see s i = see' t (view s i) ∧ Rel (step s i) (step' t (view s i)))
    {s : σ} {t : τ} (h : Rel s t) {is : List ι} (hs : AllSteps step P s is) :
    visible silent step see s is =
      observations step' see' t (project silent step view s is) := by
  induction is generalizing s t with
  | nil => rfl
  | cons i is ih =>
      rw [visible_cons]
      cases hi : silent i with
      | true => simpa [project, hi] using ih (hsilent s t i h hs.1 hi) hs.2
      | false =>
          obtain ⟨hsee, hnext⟩ := hstep s t i h hs.1 hi
          simp [project, hi, observations, hsee, ih hnext hs.2]

/-- The steps that are left are of their kind. -/
theorem AllSteps.project
    (hsilent : ∀ s t i, Rel s t → P s i → silent i = true → Rel (step s i) t)
    (hstep : ∀ s t i, Rel s t → P s i → silent i = false → Rel (step s i) (step' t (view s i)))
    (hP : ∀ s t i, Rel s t → P s i → silent i = false → P' t (view s i)) {s : σ} {t : τ}
    (h : Rel s t) {is : List ι} (hs : AllSteps step P s is) :
    AllSteps step' P' t (project silent step view s is) := by
  induction is generalizing s t with
  | nil => trivial
  | cons i is ih =>
      cases hi : silent i with
      | true => simpa [DataFusionPanama.project, hi] using ih (hsilent s t i h hs.1 hi) hs.2
      | false =>
          simpa [DataFusionPanama.project, hi, AllSteps] using
            ⟨hP s t i h hs.1 hi, ih (hstep s t i h hs.1 hi) hs.2⟩

end Erasure

end DataFusionPanama
