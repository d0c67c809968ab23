import DataFusionPanama.Base.Pick
import DataFusionPanama.Correspondence

/-!
# DataFusionPanama.Locality

What a call has to do with the objects it names.  It changes no object but
those (`touches_perform`), and besides the engine of its step what it shows
depends on no other (`see_of_sameAt`); so it shows the same again, however
much later, unless one of them has been changed in between, or the data the
engine answers from.
-/

namespace DataFusionPanama

variable {T : Types} {α : Type}

/-- The objects a call may change. -/
def ApiCall.changes : ApiCall → List Ref
  | .closeRuntime r => [.runtime r]
  | .sql s _ | .registerCsv s _ _ | .registerParquet s _ _ | .closeSession s => [.session s]
  | .closeFrame d | .drop d | .clean d => [.frame d]
  | .reader i _ => [.reader i]
  | _ => []

/-! ## what a call changes -/

section Others

variable {l l₁ l₂ : Library T} {rs : List Ref}

/-- Objects have been made, and none has changed but these. -/
structure Touches (rs : List Ref) (l l₁ : Library T) : Prop where
  runtimes : Touched (fun r => .runtime r ∈ rs) l.runtimes l₁.runtimes
  sessions : Touched (fun s => .session s ∈ rs) l.sessions l₁.sessions
  frames : Touched (fun d => .frame d ∈ rs) l.frames l₁.frames
  readers : Touched (fun i => .reader i ∈ rs) l.readers l₁.readers

/-- Nothing has been done. -/
theorem touches_refl (l : Library T) : Touches rs l l := ⟨.refl, .refl, .refl, .refl⟩

/-- Taking the process down changes no object. -/
theorem touches_halted {halted : Bool} : Touches rs l { l with halted := halted } :=
  ⟨.refl, .refl, .refl, .refl⟩

/-- A new frame changes no object. -/
theorem Touches.addFrame (h : Touches rs l l₁) (runtime : Nat) (plan : T.Plan) :
    Touches rs l (l₁.addFrame runtime plan) :=
  { h with frames := h.frames.concat _ }

/-- A result changes what storing it changes. -/
theorem touches_reply (r : Except Stop α) {store : Library T → α → Library T}
    (hs : ∀ a, Touches rs l (store l a)) : Touches rs l (l.reply r store).2 := by
  cases r with
  | ok a => exact hs a
  | error e => exact touches_halted

/-- A call in a session changes the session. -/
theorem touches_replyIn {s : Nat} {sess : SessionState T}
    (asked : Except Stop (Outcome α × T.Ctx)) {store : Library T → α → Library T}
    (hstore : ∀ l₁ a, Touches [.session s] l l₁ → Touches [.session s] l (store l₁ a)) :
    Touches [.session s] l (l.replyIn s sess asked store).2 := by
  cases asked with
  | error e => exact touches_reply (.error e) fun a => hstore l a (touches_refl l)
  | ok asked =>
      have hput : Touches [.session s] l
          { l with sessions := l.sessions.set s { sess with context := some asked.2 } } :=
        { touches_refl l with sessions := .set (by simp) _ }
      obtain ⟨o, context⟩ := asked
      cases ho : seen o with
      | ok a =>
          simp only [Library.replyIn, ho]
          exact hstore _ a hput
      | error e =>
          simp only [Library.replyIn, ho]
          exact ⟨hput.runtimes, hput.sessions, hput.frames, hput.readers⟩

/-- A method on an object that may not be there. -/
theorem touches_on {ω : Type} (object : Option ω) {method : ω → Option (Observed T) × Library T}
    (hm : ∀ w, Touches rs l (method w).2) : Touches rs l (l.on object method).2 := by
  cases object with
  | none => exact touches_refl l
  | some w => exact hm w

/-- **What a call touches.** -/
theorem touches_perform (E : Engine T) (call : ApiCall) :
    Touches call.changes l (l.perform E call).2 := by
  cases call with
  | createRuntime =>
      refine touches_reply _ fun _ => ?_
      exact { touches_refl l with runtimes := .concat .refl _ }
  | newSession r =>
      refine touches_on _ fun _ => touches_reply _ fun _ => ?_
      exact { touches_refl l with sessions := .concat .refl _ }
  | closeRuntime r =>
      refine touches_on _ fun _ => touches_reply _ fun _ => ?_
      exact { touches_refl l with runtimes := .set (by simp [ApiCall.changes]) _ }
  | sql s query =>
      refine touches_on _ fun _ => touches_replyIn _ fun l₁ plan h => ?_
      exact h.addFrame _ plan
  | registerCsv s tableName path | registerParquet s tableName path =>
      refine touches_on _ fun _ => touches_replyIn _ fun l₁ _ h => ?_
      exact h
  | closeSession s =>
      refine touches_on _ fun _ => touches_reply _ fun _ => ?_
      exact { touches_refl l with sessions := .set (by simp [ApiCall.changes]) _ }
  | transform d op =>
      refine touches_on _ fun _ => touches_reply _ fun plan => ?_
      exact (touches_refl l).addFrame _ plan
  | combine d other op =>
      refine touches_on _ fun _ => touches_on _ fun _ => touches_reply _ fun plan => ?_
      exact (touches_refl l).addFrame _ plan
  | count d =>
      refine touches_on _ fun _ => ?_
      exact touches_halted
  | collect d env =>
      refine touches_on _ fun _ => touches_reply _ fun _ => ?_
      exact { touches_refl l with readers := .concat .refl _ }
  | closeFrame d | clean d =>
      refine touches_on _ fun _ => touches_reply _ fun _ => ?_
      exact { touches_refl l with frames := .set (by simp [ApiCall.changes]) _ }
  | drop d =>
      refine touches_on _ fun _ => ?_
      exact { touches_refl l with frames := .set (by simp [ApiCall.changes]) _ }
  | reader i call =>
      refine touches_on _ fun o => ?_
      cases o with
      | none => exact touches_refl l
      | some r => exact { touches_refl l with readers := .set (by simp [ApiCall.changes]) _ }

/-- A step touches what its call does, or nothing after the process is gone. -/
theorem touches_after (s : Step T) : Touches s.2.changes l (l.after s) := by
  rw [Library.after, Library.step]
  split
  · exact touches_refl l
  · exact touches_perform s.1 s.2

end Others

/-! ## what a call shows -/

/-- An object is as it was. -/
def SameAt (l l₁ : Library T) : Ref → Prop
  | .runtime r => l₁.runtimes[r]? = l.runtimes[r]?
  | .session s => l₁.sessions[s]? = l.sessions[s]?
  | .frame d => l₁.frames[d]? = l.frames[d]?
  | .reader i => l₁.readers[i]? = l.readers[i]?

section Shows

variable {l l₁ : Library T}

/-- A result is shown wherever it is stored. -/
theorem reply_fst (r : Except Stop α) (store store₁ : Library T → α → Library T) :
    (l₁.reply r store₁).1 = (l.reply r store).1 := by
  cases r <;> rfl

/-- What a call in a session shows depends on its context only. -/
theorem replyIn_fst {s : Nat} {sess : SessionState T} (asked : Except Stop (Outcome α × T.Ctx))
    (store store₁ : Library T → α → Library T) :
    (l₁.replyIn s sess asked store₁).1 = (l.replyIn s sess asked store).1 := by
  cases asked with
  | error e => rfl
  | ok asked => exact reply_fst (seen asked.1) store store₁

/-- What a method shows on the same object. -/
theorem on_fst {ω : Type} {object object₁ : Option ω}
    {method method₁ : ω → Option (Observed T) × Library T} (ho : object₁ = object)
    (hm : ∀ w, (method₁ w).1 = (method w).1) :
    (l₁.on object₁ method₁).1 = (l.on object method).1 := by
  subst ho
  cases object₁ with
  | none => rfl
  | some w => exact hm w

/-- **What a call shows** depends only on the objects it names. -/
theorem perform_fst (E : Engine T) {call : ApiCall} (h : ∀ r ∈ call.refs, SameAt l l₁ r) :
    (l₁.perform E call).1 = (l.perform E call).1 := by
  have hframe : ∀ {d : Nat}, l₁.frames[d]? = l.frames[d]? → l₁.frame? d = l.frame? d := fun hd => by
    rw [Library.frame?, Library.frame?, hd]
  cases call with
  | createRuntime => exact reply_fst _ _ _
  | newSession r | closeRuntime r =>
      have hr : l₁.runtimes[r]? = l.runtimes[r]? := h (.runtime r) (by simp [ApiCall.refs])
      exact on_fst hr fun _ => reply_fst _ _ _
  | sql s query | registerCsv s _ _ | registerParquet s _ _ =>
      have hs : l₁.sessions[s]? = l.sessions[s]? := h (.session s) (by simp [ApiCall.refs])
      exact on_fst hs fun _ => replyIn_fst _ _ _
  | closeSession s =>
      have hs : l₁.sessions[s]? = l.sessions[s]? := h (.session s) (by simp [ApiCall.refs])
      exact on_fst hs fun _ => reply_fst _ _ _
  | transform d _ | collect d _ | closeFrame d =>
      have hd : l₁.frames[d]? = l.frames[d]? := h (.frame d) (by simp [ApiCall.refs])
      exact on_fst (hframe hd) fun _ => reply_fst _ _ _
  | combine d other op =>
      have hd : l₁.frames[d]? = l.frames[d]? := h (.frame d) (by simp [ApiCall.refs])
      have ho : l₁.operand? other = l.operand? other := by
        cases other with
        | none => rfl
        | some o =>
            have hother : l₁.frames[o]? = l.frames[o]? := h (.frame o) (by simp [ApiCall.refs])
            rw [Library.operand?, Library.operand?, hframe hother]
      exact on_fst (hframe hd) fun _ => on_fst ho fun _ => reply_fst _ _ _
  | count d | drop d =>
      have hd : l₁.frames[d]? = l.frames[d]? := h (.frame d) (by simp [ApiCall.refs])
      exact on_fst (hframe hd) fun _ => rfl
  | clean d =>
      have hd : l₁.frames[d]? = l.frames[d]? := h (.frame d) (by simp [ApiCall.refs])
      have hdropped : l₁.dropped? d = l.dropped? d := by rw [Library.dropped?, Library.dropped?, hd]
      exact on_fst hdropped fun _ => reply_fst _ _ _
  | reader i call =>
      have hi : l₁.readers[i]? = l.readers[i]? := h (.reader i) (by simp [ApiCall.refs])
      exact on_fst hi fun o => by cases o <;> rfl

/-- A step shows the same where its objects are the same. -/
theorem see_of_sameAt {s : Step T} (h : ∀ r ∈ s.2.refs, SameAt l l₁ r)
    (hrun : l₁.halted = l.halted) : l₁.see s = l.see s := by
  rw [Library.see, Library.see, Library.step, Library.step, hrun]
  split
  · rfl
  · exact perform_fst s.1 h

/-- An object has been made. -/
def Made (l : Library T) : Ref → Prop
  | .runtime r => r < l.runtimes.length
  | .session s => s < l.sessions.length
  | .frame d => d < l.frames.length
  | .reader i => i < l.readers.length

/-- A method that shows something has an object. -/
theorem made_of_on {ω : Type} {object : Option ω} {method : ω → Option (Observed T) × Library T}
    {o : Observed T} (h : (l.on object method).1 = some o) : ∃ w, object = some w := by
  cases object with
  | none => cases h
  | some w => exact ⟨w, rfl⟩

/-- A frame that the program refers to has been made. -/
theorem made_of_frame? {d : Nat} {f : FrameState T} (h : l.frame? d = some f) :
    Made l (.frame d) := by
  cases hd : l.frames[d]? with
  | none => simp [Library.frame?, hd] at h
  | some f' => exact (List.getElem?_eq_some_iff.mp hd).1

/-- A frame that the program has forgotten has been made. -/
theorem made_of_dropped? {d : Nat} {f : FrameState T} (h : l.dropped? d = some f) :
    Made l (.frame d) := by
  cases hd : l.frames[d]? with
  | none => simp [Library.dropped?, hd] at h
  | some f' => exact (List.getElem?_eq_some_iff.mp hd).1

/-- A call shows something only if its objects have been made. -/
theorem made_of_perform (E : Engine T) {call : ApiCall} {o : Observed T}
    (h : (l.perform E call).1 = some o) : ∀ r ∈ call.refs, Made l r := by
  cases call with
  | createRuntime => simp [ApiCall.refs]
  | newSession r | closeRuntime r =>
      obtain ⟨w, hw⟩ := made_of_on h
      simpa [ApiCall.refs, Made] using (List.getElem?_eq_some_iff.mp hw).1
  | sql s _ | registerCsv s _ _ | registerParquet s _ _ | closeSession s =>
      obtain ⟨w, hw⟩ := made_of_on h
      simpa [ApiCall.refs, Made] using (List.getElem?_eq_some_iff.mp hw).1
  | transform d _ | collect d _ | closeFrame d | count d | drop d =>
      obtain ⟨w, hw⟩ := made_of_on h
      simpa [ApiCall.refs] using made_of_frame? hw
  | clean d =>
      obtain ⟨w, hw⟩ := made_of_on h
      simpa [ApiCall.refs] using made_of_dropped? hw
  | combine d other op =>
      obtain ⟨w, hw⟩ := made_of_on h
      rw [Library.perform, hw, Library.on] at h
      obtain ⟨w', hw'⟩ := made_of_on h
      cases other with
      | none => simpa [ApiCall.refs] using made_of_frame? hw
      | some other =>
          obtain ⟨f, hf, -⟩ := Option.map_eq_some_iff.mp hw'
          simpa [ApiCall.refs] using ⟨made_of_frame? hw, made_of_frame? hf⟩
  | reader i call =>
      obtain ⟨w, hw⟩ := made_of_on h
      simpa [ApiCall.refs, Made] using (List.getElem?_eq_some_iff.mp hw).1

/-- A step shows something only in a running process, of objects that have
been made. -/
theorem made_of_see {s : Step T} {o : Observed T} (h : l.see s = some o) :
    l.halted = false ∧ ∀ r ∈ s.2.refs, Made l r := by
  rw [Library.see, Library.step] at h
  split at h
  · cases h
  · next hrun => exact ⟨by simpa using hrun, made_of_perform s.1 h⟩

end Shows

/-! ## runs -/

/-- An object that is not touched is as it was. -/
theorem Touches.sameAt {l l₁ : Library T} {rs : List Ref} {r : Ref} (h : Touches rs l l₁)
    (hr : r ∉ rs) (hmade : Made l r) : SameAt l l₁ r ∧ Made l₁ r := by
  cases r with
  | runtime r => exact ⟨h.runtimes.same r hmade hr, Nat.lt_of_lt_of_le hmade h.runtimes.length⟩
  | session s => exact ⟨h.sessions.same s hmade hr, Nat.lt_of_lt_of_le hmade h.sessions.length⟩
  | frame d => exact ⟨h.frames.same d hmade hr, Nat.lt_of_lt_of_le hmade h.frames.length⟩
  | reader i => exact ⟨h.readers.same i hmade hr, Nat.lt_of_lt_of_le hmade h.readers.length⟩

/-- Every object is as it is. -/
theorem sameAt_refl (l : Library T) (r : Ref) : SameAt l l r := by
  cases r <;> rfl

/-- An object that is as it was, twice. -/
theorem SameAt.trans {l l₁ l₂ : Library T} {r : Ref} (h : SameAt l l₁ r) (h' : SameAt l₁ l₂ r) :
    SameAt l l₂ r := by
  cases r <;> exact Eq.trans h' h

/-- An object no step of a run changes. -/
theorem sameAt_run {l : Library T} {r : Ref} {steps : List (Step T)} (hmade : Made l r)
    (h : ∀ s ∈ steps, r ∉ s.2.changes) : SameAt l (steps.foldl Library.after l) r := by
  induction steps generalizing l with
  | nil => exact sameAt_refl l r
  | cons s steps ih =>
      obtain ⟨hsame, hnext⟩ := (touches_after (l := l) s).sameAt (h s (by simp)) hmade
      exact hsame.trans (ih hnext fun s' hs' => h s' (by simp [hs']))

/-- **A call shows the same again**, at any time after, if no call in between
may change an object it names, the runtimes of its objects are open both
times and the engine is what it was: a frame stands for the plan it was made
of, whatever becomes of its session and of the frames it was made from. -/
theorem shown_again (before after : List (Step T)) (s : Step T) (o : Observed T)
    (h : Allowed (before ++ after ++ [s])) (hbefore : Allowed (before ++ [s]))
    (hsee : (Process.start.run before).see s = some o)
    (huntouched : ∀ r ∈ s.2.refs, ∀ i ∈ after, r ∉ i.2.changes)
    (hrun : (Process.start.run (before ++ after)).halted = false) :
    (Process.start.run (before ++ after)).see s = some o := by
  obtain ⟨hfirst, hs, -⟩ := allSteps_append.mp hbefore
  obtain ⟨hall, hs', -⟩ := allSteps_append.mp h
  have hagrees := (agrees_start.run hfirst).2
  have hagrees' := (agrees_start.run hall).2
  rw [(agrees_step hagrees s hs).1] at hsee
  rw [(agrees_step hagrees' s hs').1, ← hsee]
  obtain ⟨hrunning, hmade⟩ := made_of_see hsee
  refine see_of_sameAt (fun r hr => ?_) ?_
  · rw [List.foldl_append]
    exact sameAt_run (hmade r hr) (huntouched r hr)
  · rw [hrunning, ← hagrees'.represents.halted, hrun]

/-- A count, after the session is gone and the frame has been collected. -/
theorem shown_again_selectOne :
    (Process.start.run (selectOne.take 3 ++ (selectOne.drop 3).take 3)).see (planEngine, .count 0) =
      some (.count (.ok 1)) :=
  shown_again (selectOne.take 3) ((selectOne.drop 3).take 3) (planEngine, .count 0) (.count (.ok 1))
    ⟨rfl, rfl, rfl, rfl, rfl, rfl, rfl, trivial⟩ ⟨rfl, rfl, rfl, rfl, trivial⟩ rfl (by decide) rfl

end DataFusionPanama
