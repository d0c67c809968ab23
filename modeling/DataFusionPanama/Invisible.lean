import DataFusionPanama.Correspondence

/-!
# DataFusionPanama.Invisible

What a program cannot tell.  Through `binding_refines_library` these are
questions about `Library`, where they have short answers:

* a call that throws, and a call that only asks, leaves nothing behind that
  any later call could see (`silent_call_invisible`);
* neither does the `Cleaner`, in whatever order it gets to the frames the
  program has forgotten, between any two calls (`cleaner_invisible`).

Three calls are different.  A reader is closed even when closing it throws.
What a failing query or registration does to its session is the engine's
business: the binding leaves the session with whatever the engine made of
it.

Both results compare two runs in which the engine answers the later calls
alike.  A count executes its plan, and if that writes data the later calls
could notice, it is the engine that shows it, not the binding.  That the
`Cleaner` may also come during a call is the matter of `Reachability`.
-/

namespace DataFusionPanama

variable {T : Types} {α : Type}

/-! ## calls that leave nothing behind -/

/-- A call that threw. -/
def failed : Except Stop α → Bool
  | .error stop => decide (stop ≠ .aborted)
  | .ok _ => false

/-- What is shown by a call that threw or only asked. -/
def Observed.silent : Observed T → Bool
  | .called r => failed r
  | .next r => failed r
  | .count r => !aborts r
  | .schema _ | .batch _ => true

/-- A query or a registration that fails leaves its context as it was. -/
structure Engine.Transactional (E : Engine T) : Prop where
  sql : ∀ context query f, (E.sql context query).1 = .error f → (E.sql context query).2 = context
  registerCsv : ∀ context name path f, (E.registerCsv context name path).1 = .error f →
    (E.registerCsv context name path).2 = context
  registerParquet : ∀ context name path f, (E.registerParquet context name path).1 = .error f →
    (E.registerParquet context name path).2 = context

/-- The calls that go to the engine with a session. -/
def ApiCall.inSession : ApiCall → Bool
  | .sql .. | .registerCsv .. | .registerParquet .. => true
  | _ => false

section Silent

variable {l : Library T}

/-- A call that throws leaves the process running. -/
theorem aborts_of_failed {r : Except Stop α} (h : failed r = true) : aborts r = false := by
  cases r with
  | ok a => rfl
  | error e => simpa [aborts, failed] using h

/-- A reply that shows an exception. -/
theorem reply_of_silent {r : Except Stop α} {o : Observed T} (hl : l.halted = false)
    (store : Library T → α → Library T) (hsee : (l.reply r store).1 = some o)
    (ho : o.silent = true) :
    (l.reply r store).2 = l := by
  cases r with
  | ok a =>
      obtain rfl : .called (.ok ()) = o := Option.some.inj hsee
      cases ho
  | error e =>
      obtain rfl : .called (.error e) = o := Option.some.inj hsee
      have h : aborts (.error e : Except Stop α) = false :=
        aborts_of_failed (r := (.error e : Except Stop α)) ho
      simp [Library.reply, h, ← hl]

/-- A method that changes nothing where it shows something. -/
theorem on_of_silent {ω : Type} {object : Option ω} {method : ω → Option (Observed T) × Library T}
    {o : Observed T} (hsee : (l.on object method).1 = some o)
    (hm : ∀ w, object = some w → (method w).1 = some o → (method w).2 = l) :
    (l.on object method).2 = l := by
  cases hw : object with
  | none => rfl
  | some w =>
      rw [hw] at hsee
      exact hm w hw hsee

/-- A call in a session whose engine is transactional. -/
theorem replyIn_of_silent {s : Nat} {sess : SessionState T}
    {asked : Except Stop (Outcome α × T.Ctx)} {store : Library T → α → Library T} {o : Observed T}
    (hl : l.halted = false) (hs : l.sessions[s]? = some sess)
    (hasked : ∀ f context, asked = .ok (.error f, context) → sess.context = some context)
    (hsee : (l.replyIn s sess asked store).1 = some o) (ho : o.silent = true) :
    (l.replyIn s sess asked store).2 = l := by
  cases asked with
  | error e => exact reply_of_silent hl store hsee ho
  | ok asked =>
      obtain ⟨out, context⟩ := asked
      cases out with
      | ok a =>
          obtain rfl : .called (.ok ()) = o := Option.some.inj hsee
          cases ho
      | error f =>
          have hset :
              { l with sessions := l.sessions.set s { sess with context := some context } } =
              l := by
            rw [← hasked f context rfl]
            obtain ⟨hlt, hget⟩ := List.getElem?_eq_some_iff.mp hs
            exact congrArg (fun ss => { l with sessions := ss })
              (hget ▸ List.set_getElem_self hlt)
          rw [Library.replyIn, hset] at hsee ⊢
          exact reply_of_silent hl _ hsee ho

/-- A query that fails leaves a transactional context. -/
theorem sqlOutcome_error {E : Engine T} (hE : E.Transactional) {context : Option T.Ctx}
    {query : JArg} {f : Fault} {context' : T.Ctx}
    (h : sqlOutcome E context query = .ok (.error f, context')) : context = some context' := by
  cases query with
  | none => cases h
  | some q =>
      cases context with
      | none => cases h
      | some c =>
          have hsql : E.sql c (JString.arrived q) = (.error f, context') := Except.ok.inj h
          have hkeep := hE.sql c (JString.arrived q) f (by rw [hsql])
          rw [hsql] at hkeep
          exact congrArg some hkeep.symm

/-- So does a registration. -/
theorem registerOutcome_error {register : T.Ctx → Text → Text → Outcome Unit × T.Ctx}
    (hE : ∀ context name path f, (register context name path).1 = .error f →
      (register context name path).2 = context)
    {context : Option T.Ctx} {tableName path : JArg} {f : Fault} {context' : T.Ctx}
    (h : registerOutcome register context tableName path = .ok (.error f, context')) :
    context = some context' := by
  cases tableName with
  | none => cases h
  | some n =>
      cases path with
      | none => cases h
      | some q =>
          cases context with
          | none => cases h
          | some c =>
              have hreg :
                  register c (JString.arrived n) (JString.arrived q) = (.error f, context') :=
                Except.ok.inj h
              have hkeep := hE c (JString.arrived n) (JString.arrived q) f (by rw [hreg])
              rw [hreg] at hkeep
              exact congrArg some hkeep.symm

/-- A call on a reader that does not close it. -/
theorem readerCall_of_silent {st : ReaderState T} {call : ReaderCall}
    (hclose : call.isClose = false) (ho : (st.call call).1.silent = true) :
    (st.call call).2 = some st := by
  cases call with
  | close io => cases hclose
  | next io =>
      cases io with
      | some e => rfl
      | none =>
          obtain ⟨schema, current, rest⟩ := st
          cases rest <;> cases ho
  | getSchema io | getCurrentBatch io => cases io <;> rfl

/-- **A silent call** leaves the library as it was. -/
theorem after_of_silent {s : Step T} {o : Observed T} (hsee : l.see s = some o)
    (ho : o.silent = true) (hclose : ∀ i io, s.2 ≠ .reader i (.close io))
    (hE : s.2.inSession = true → s.1.Transactional) : l.after s = l := by
  obtain ⟨E, call⟩ := s
  rw [Library.see, Library.step] at hsee
  rw [Library.after, Library.step]
  cases hl : l.halted with
  | true => rfl
  | false =>
      rw [hl, if_neg Bool.false_ne_true] at hsee
      rw [if_neg Bool.false_ne_true]
      cases call with
      | createRuntime => exact reply_of_silent hl _ hsee ho
      | newSession r | closeRuntime r | closeSession r =>
          exact on_of_silent hsee fun _ _ h => reply_of_silent hl _ h ho
      | transform d op | collect d op | closeFrame d | clean d =>
          exact on_of_silent hsee fun _ _ h => reply_of_silent hl _ h ho
      | combine d other op =>
          exact on_of_silent hsee fun _ _ h => on_of_silent h fun _ _ h => reply_of_silent hl _ h ho
      | sql n query =>
          exact on_of_silent hsee fun sess hs h => replyIn_of_silent hl hs
            (fun f context => sqlOutcome_error (hE rfl)) h ho
      | registerCsv n tableName path =>
          exact on_of_silent hsee fun sess hs h => replyIn_of_silent hl hs
            (fun f context => registerOutcome_error (hE rfl).registerCsv) h ho
      | registerParquet n tableName path =>
          exact on_of_silent hsee fun sess hs h => replyIn_of_silent hl hs
            (fun f context => registerOutcome_error (hE rfl).registerParquet) h ho
      | count d =>
          refine on_of_silent hsee fun f hf h => ?_
          obtain rfl := Option.some.inj h
          have hno : aborts (countOutcome E f.plan) = false := by
            simpa [Observed.silent] using ho
          simp [hno, ← hl]
      | drop d => exact on_of_silent hsee fun _ _ h => by cases h
      | reader i call =>
          refine on_of_silent hsee fun st hst h => ?_
          cases st with
          | none => rfl
          | some st =>
              obtain rfl := Option.some.inj h
              have hnot : call.isClose = false := by
                cases call with
                | close io => exact absurd rfl (hclose i io)
                | _ => rfl
              obtain ⟨hlt, hget⟩ := List.getElem?_eq_some_iff.mp hst
              have hset : l.readers.set i (some st) = l.readers := hget ▸ List.set_getElem_self hlt
              simp only [readerCall_of_silent hnot ho, hset]

end Silent

/-- **A silent call is invisible.**  If a call throws, or only asks for a
count, a schema or the current batch, the rest of the program sees what it
would see without that call: whatever the rest is, if it uses no object after
its runtime is closed and the engine answers it the same. -/
theorem silent_call_invisible (before after : List (Step T)) (s : Step T) (o : Observed T)
    (h : Allowed (before ++ s :: after)) (hsee : (Process.start.run before).see s = some o)
    (ho : o.silent = true) (hclose : ∀ i io, s.2 ≠ .reader i (.close io))
    (hE : s.2.inSession = true → s.1.Transactional) :
    observations Process.after Process.see (Process.start.run (before ++ [s])) after =
      observations Process.after Process.see (Process.start.run before) after := by
  obtain ⟨hbefore, hs, hafter⟩ := allSteps_append.mp h
  have hagrees := (agrees_start.run hbefore).2
  obtain ⟨hshow, hnext⟩ := agrees_step hagrees s hs
  have hsame := after_of_silent (hshow ▸ hsee) ho hclose hE
  rw [hsame] at hnext hafter
  rw [Process.run, List.foldl_append]
  exact (hnext.run hafter).1.trans (hagrees.run hafter).1.symm

/-- The small engine changes no context when it fails. -/
theorem transactional_planEngine : planEngine.Transactional where
  sql _ _ _ _ := rfl
  registerCsv _ _ _ _ h := by cases h
  registerParquet _ _ _ _ h := by cases h

/-- A query that does not parse, in the middle of a program. -/
theorem silent_call_invisible_selectOne :
    observations Process.after Process.see
        (Process.start.run (selectOne.take 3 ++ [(planEngine, .sql 0 (some []))]))
        (selectOne.drop 3) =
      observations Process.after Process.see (Process.start.run (selectOne.take 3))
        (selectOne.drop 3) :=
  silent_call_invisible (selectOne.take 3) (selectOne.drop 3) (planEngine, .sql 0 (some [])) _
    ⟨rfl, rfl, rfl, rfl, rfl, rfl, rfl, rfl, rfl, rfl, rfl, rfl, rfl, rfl, rfl, trivial⟩ rfl rfl
    (by simp) fun _ => transactional_planEngine

/-! ## the Cleaner -/

/-- A step of the `Cleaner`. -/
def isClean (s : Step T) : Bool :=
  match s.2 with
  | .clean _ => true
  | _ => false

/-- The same frame, or a forgotten one on either side. -/
def FrameAlike (f f' : FrameState T) : Prop :=
  f.dropped = f'.dropped ∧ (f.dropped = false → f = f')

/-- The same library, but for the frames the program has forgotten. -/
structure Alike (l l' : Library T) : Prop where
  runtimes : l.runtimes = l'.runtimes
  sessions : l.sessions = l'.sessions
  readers : l.readers = l'.readers
  halted : l.halted = l'.halted
  frames : Mirrors FrameAlike l.frames l'.frames

/-- A library is like itself. -/
theorem alike_refl (l : Library T) : Alike l l :=
  ⟨rfl, rfl, rfl, rfl, fun i => by cases l.frames[i]? <;> simp [FrameAlike]⟩

section Cleaner

variable {l l' : Library T}

/-- What a call shows and leaves on both sides. -/
structure AlikeEnds (out out' : Option (Observed T) × Library T) : Prop where
  observed : out.1 = out'.1
  alike : Alike out.2 out'.2

/-- The same result is shown, and stored alike. -/
theorem Alike.reply (h : Alike l l') (r : Except Stop α) {store store' : Library T → α → Library T}
    (hs : ∀ a, Alike (store l a) (store' l' a)) :
    AlikeEnds (l.reply r store) (l'.reply r store') := by
  cases r with
  | ok a => exact ⟨rfl, hs a⟩
  | error e => exact ⟨rfl, { h with halted := rfl }⟩

/-- A method on the same object. -/
theorem Alike.on {ω : Type} (h : Alike l l') (object : Option ω)
    {method method' : ω → Option (Observed T) × Library T}
    (hm : ∀ w, object = some w → AlikeEnds (method w) (method' w)) :
    AlikeEnds (l.on object method) (l'.on object method') := by
  cases object with
  | none => exact ⟨rfl, h⟩
  | some w => exact hm w rfl

/-- A call in the same session. -/
theorem Alike.replyIn (h : Alike l l') (s : Nat) (sess : SessionState T)
    (asked : Except Stop (Outcome α × T.Ctx)) {store : Library T → α → Library T}
    (hs : ∀ l l' a, Alike l l' → Alike (store l a) (store l' a)) :
    AlikeEnds (l.replyIn s sess asked store) (l'.replyIn s sess asked store) := by
  cases asked with
  | error e => exact h.reply (.error e) fun a => hs l l' a h
  | ok asked =>
      have hput : Alike
          { l with sessions := l.sessions.set s { sess with context := some asked.2 } }
          { l' with sessions := l'.sessions.set s { sess with context := some asked.2 } } :=
        { h with sessions := by rw [h.sessions] }
      exact hput.reply (seen asked.1) fun a => hs _ _ a hput

/-- The program refers to the same frames. -/
theorem Alike.frame? (h : Alike l l') (d : Nat) : l.frame? d = l'.frame? d := by
  unfold Library.frame?
  cases hf : l.frames[d]? with
  | none => rw [h.frames.get_none hf]
  | some f =>
      obtain ⟨f', hf', hdrop, heq⟩ := h.frames.get hf
      rw [hf']
      cases hd : f.dropped with
      | false => rw [heq hd]
      | true => simp [Option.filter, hd, ← hdrop]

/-- And to the same second operands. -/
theorem Alike.operand? (h : Alike l l') (other : Option Nat) :
    l.operand? other = l'.operand? other := by
  cases other with
  | none => rfl
  | some d => exact congrArg (Option.map some) (h.frame? d)

/-- Both have made the same frame. -/
theorem Alike.addFrame (h : Alike l l') (runtime : Nat) (plan : T.Plan) :
    Alike (l.addFrame runtime plan) (l'.addFrame runtime plan) :=
  { h with frames := h.frames.append ⟨rfl, fun _ => rfl⟩ }

/-- Both have made a reader of the same stream. -/
theorem Alike.addReader (h : Alike l l') (stream : Stream T) :
    Alike (l.addReader stream) (l'.addReader stream) :=
  { h with readers := congrArg (· ++ [some (⟨_, none, stream.batches⟩ : ReaderState T)]) h.readers }

/-- A frame changes alike in both. -/
theorem Alike.setFrame (h : Alike l l') (d : Nat) {f f' : FrameState T} (hf : FrameAlike f f') :
    Alike (l.setFrame d f) (l'.setFrame d f') :=
  { h with frames := h.frames.set (fun _ _ _ _ _ hR => hR) fun _ => hf }

/-- **One call** of the program cannot tell two such libraries apart. -/
theorem Alike.perform (h : Alike l l') (E : Engine T) {call : ApiCall} (hc : ∀ d, call ≠ .clean d) :
    AlikeEnds (l.perform E call) (l'.perform E call) := by
  cases call with
  | createRuntime =>
      rw [Library.perform, Library.perform]
      refine h.reply _ fun _ => ?_
      exact { h with runtimes := congrArg (· ++ [true]) h.runtimes }
  | newSession r =>
      rw [Library.perform, Library.perform, ← h.runtimes]
      refine h.on _ fun open_ _ => h.reply _ fun context => ?_
      exact { h with sessions := congrArg (· ++ [⟨some context, r⟩]) h.sessions }
  | closeRuntime r =>
      rw [Library.perform, Library.perform, ← h.runtimes]
      refine h.on _ fun open_ _ => h.reply _ fun _ => ?_
      exact { h with runtimes := congrArg (·.set r false) h.runtimes }
  | sql s query =>
      rw [Library.perform, Library.perform, ← h.sessions]
      refine h.on _ fun sess _ => h.replyIn s sess _ fun l l' plan hl => ?_
      exact hl.addFrame sess.runtime plan
  | registerCsv s tableName path | registerParquet s tableName path =>
      rw [Library.perform, Library.perform, ← h.sessions]
      refine h.on _ fun sess _ => h.replyIn s sess _ fun l l' _ hl => ?_
      exact hl
  | closeSession s =>
      rw [Library.perform, Library.perform, ← h.sessions]
      refine h.on _ fun sess _ => h.reply _ fun _ => ?_
      exact { h with sessions := congrArg (·.set s { sess with context := none }) h.sessions }
  | transform d op =>
      rw [Library.perform, Library.perform, ← h.frame?]
      refine h.on _ fun f _ => h.reply _ fun plan => ?_
      exact h.addFrame f.runtime plan
  | combine d other op =>
      rw [Library.perform, Library.perform, ← h.frame?, ← h.operand?]
      refine h.on _ fun f _ => h.on _ fun o _ => h.reply _ fun plan => ?_
      exact h.addFrame f.runtime plan
  | count d =>
      rw [Library.perform, Library.perform, ← h.frame?]
      refine h.on _ fun f _ => ?_
      exact ⟨rfl, { h with halted := rfl }⟩
  | collect d env =>
      rw [Library.perform, Library.perform, ← h.frame?]
      refine h.on _ fun f _ => h.reply _ fun stream => ?_
      exact h.addReader stream
  | closeFrame d =>
      rw [Library.perform, Library.perform, ← h.frame?]
      refine h.on _ fun f _ => h.reply _ fun _ => ?_
      exact h.setFrame d ⟨rfl, fun _ => rfl⟩
  | drop d =>
      rw [Library.perform, Library.perform, ← h.frame?]
      refine h.on _ fun f _ => ?_
      exact ⟨rfl, h.setFrame d ⟨rfl, fun _ => rfl⟩⟩
  | clean d => exact absurd rfl (hc d)
  | reader i call =>
      rw [Library.perform, Library.perform, ← h.readers]
      refine h.on _ fun o _ => ?_
      cases o with
      | none => exact ⟨rfl, h⟩
      | some r => exact ⟨rfl, { h with readers := rfl }⟩

/-- **The `Cleaner`** touches nothing but what has been forgotten. -/
theorem Alike.clean (h : Alike l l') (E : Engine T) (d : Nat) :
    Alike (l.perform E (.clean d)).2 l' := by
  have hmirror := h.frames
  simp only [Library.perform, Library.dropped?]
  cases hf : l.frames[d]? with
  | none => exact h
  | some f =>
      cases hd : f.dropped with
      | false =>
          simp only [Option.filter, hd, Library.on]
          exact h
      | true =>
          simp only [Option.filter, hd, Library.on, Library.reply, Library.setFrame, if_true]
          obtain ⟨f', hf', hdrop, -⟩ := hmirror.get hf
          have hset : l'.frames.set d f' = l'.frames := by
            obtain ⟨hlt, hget⟩ := List.getElem?_eq_some_iff.mp hf'
            exact hget ▸ List.set_getElem_self hlt
          have hm :
              Mirrors FrameAlike (l.frames.set d ⟨none, f.runtime, true⟩) (l'.frames.set d f') :=
            hmirror.set (fun _ _ _ _ _ hR => hR) fun _ =>
              ⟨hd.symm.trans hdrop, fun hn => absurd hn (by simp)⟩
          exact { h with frames := hset ▸ hm }

/-- The Cleaner leaves the library like what it was. -/
theorem Alike.after_clean (h : Alike l l') {s : Step T} (hs : isClean s = true) :
    Alike (l.after s) l' := by
  obtain ⟨E, call⟩ := s
  rw [Library.after, Library.step]
  split
  · exact h
  · cases call with
    | clean d => exact h.clean E d
    | _ => cases hs

/-- Every other step shows the same in both. -/
theorem Alike.after (h : Alike l l') {s : Step T} (hs : isClean s = false) :
    l.see s = l'.see s ∧ Alike (l.after s) (l'.after s) := by
  obtain ⟨E, call⟩ := s
  rw [Library.see, Library.see, Library.after, Library.after, Library.step, Library.step,
    ← h.halted]
  split
  · exact ⟨rfl, h⟩
  · have hends : AlikeEnds (l.perform E call) (l'.perform E call) := h.perform E fun d hd => by
      subst hd
      cases hs
    exact ⟨hends.observed, hends.alike⟩

/-- The same calls are allowed in both. -/
theorem Alike.allows (h : Alike l l') (call : ApiCall) : l.allows call = l'.allows call := by
  cases call <;>
    simp only [Library.allows, Library.runtimeOpen, h.runtimes, h.sessions, h.frame?]

end Cleaner

/-- **The `Cleaner` is invisible.**  A program that uses no object after its
runtime is closed sees the same between whichever calls, in whatever order
and whether or not at all the frames it has forgotten are cleaned. -/
theorem cleaner_invisible (steps : List (Step T)) (h : Allowed steps) :
    visible isClean Process.after Process.see .start steps =
      observations Process.after Process.see .start (steps.filter fun s => !isClean s) := by
  have hclean : ∀ (l l' : Library T) (s : Step T), Alike l l' → l.allows s.2 = true →
      isClean s = true → Alike (l.after s) l' := fun _ _ _ hl _ hs => hl.after_clean hs
  have hstep : ∀ (l l' : Library T) (s : Step T), Alike l l' → l.allows s.2 = true →
      isClean s = false → l.see s = l'.see s ∧ Alike (l.after s) (l'.after s) :=
    fun _ _ _ hl _ hs => hl.after hs
  have hrest : Allowed (project isClean Library.after (fun _ s => s) .start steps) := by
    refine AllSteps.project hclean ?_ ?_ (alike_refl _) h
    · intro l l' s hl ha hs
      exact (hstep l l' s hl ha hs).2
    · intro l l' s hl ha _
      rw [← hl.allows s.2]
      exact ha
  have hvisible := visible_eq_observations hclean hstep (alike_refl _) h
  rw [project_eq_filter] at hrest hvisible
  rw [visible, (agrees_start.run h).1, (agrees_start.run hrest).1]
  exact hvisible

/-- A frame is forgotten, and cleaned while another one is read. -/
def forgetful : List (Step planTypes) :=
  selectOne.take 3 ++ [.transform 0 .distinct, .drop 0, .count 1, .clean 0, .clean 0,
    .collect 1 ⟨none, none, none⟩, .reader 0 (.next none)].map (planEngine, ·)

/-- What the program sees is what it sees without the Cleaner. -/
theorem cleaner_invisible_forgetful :
    visible isClean Process.after Process.see .start forgetful =
      observations Process.after Process.see .start (forgetful.filter fun s => !isClean s) :=
  cleaner_invisible forgetful ⟨rfl, rfl, rfl, rfl, rfl, rfl, rfl, rfl, rfl, rfl, trivial⟩

end DataFusionPanama
