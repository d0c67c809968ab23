import DataFusionPanama.Base.Pick
import DataFusionPanama.Locality

/-!
# DataFusionPanama.Interleaving

Threads that keep to themselves.  Some steps of a run are mine, and so are
the objects they make; the rest are steps of other threads, in whatever
order they come in between.  As long as I use no object but mine, and the
others leave mine as they are, I cannot tell that they are there: I see what
`alone` would show me, the same calls with the objects numbered as if only
mine had ever been made.

An object can be shared by more than one thread: the steps that make it are
then counted as mine by each of them.  The others may use an object of mine,
as long as they do not change it: open sessions on a runtime, derive frames
from a frame, or send a session queries that leave its context alone.

Objects are all that threads can share here.  What the others' calls write
to the data itself is in the engines of the steps after them; `alone` keeps
the engine of each of my steps, so the others are taken to write nothing
that my calls could notice.
-/

namespace DataFusionPanama

variable {T : Types} {α : Type}

/-! ## what is mine -/

/-- Which of the objects made so far are mine. -/
structure Share where
  runtimes : List Bool
  sessions : List Bool
  frames : List Bool
  readers : List Bool

namespace Share

def empty : Share := ⟨[], [], [], []⟩

variable (μ : Share)

def mask : Ref → List Bool
  | .runtime _ => μ.runtimes
  | .session _ => μ.sessions
  | .frame _ => μ.frames
  | .reader _ => μ.readers

def Has (r : Ref) : Prop := (μ.mask r)[r.number]? = some true

instance (r : Ref) : Decidable (μ.Has r) := inferInstanceAs (Decidable (_ = _))

/-- The number of an object among those that are mine. -/
def number (r : Ref) : Nat := rank (μ.mask r) r.number

/-- Whatever has been made meanwhile is mine, or is not. -/
def extend (mine : Bool) (l : Library T) : Share where
  runtimes := μ.runtimes.rightpad l.runtimes.length mine
  sessions := μ.sessions.rightpad l.sessions.length mine
  frames := μ.frames.rightpad l.frames.length mine
  readers := μ.readers.rightpad l.readers.length mine

variable {μ} {r : Ref}

/-- What is mine stays mine. -/
theorem has_extend (h : μ.Has r) (mine : Bool) (l : Library T) : (μ.extend mine l).Has r := by
  cases r <;> exact getElem?_rightpad h _ _

/-- What is mine keeps its number. -/
theorem number_extend (h : μ.Has r) (mine : Bool) (l : Library T) :
    (μ.extend mine l).number r = μ.number r := by
  cases r <;> exact rank_rightpad h _ _

end Share

/-- The same call on objects with other numbers. -/
def ApiCall.renumber (f : Ref → Nat) : ApiCall → ApiCall
  | .createRuntime => .createRuntime
  | .newSession r => .newSession (f (.runtime r))
  | .closeRuntime r => .closeRuntime (f (.runtime r))
  | .sql s query => .sql (f (.session s)) query
  | .registerCsv s tableName path => .registerCsv (f (.session s)) tableName path
  | .registerParquet s tableName path => .registerParquet (f (.session s)) tableName path
  | .closeSession s => .closeSession (f (.session s))
  | .transform d op => .transform (f (.frame d)) op
  | .combine d other op => .combine (f (.frame d)) (other.map fun o => f (.frame o)) op
  | .count d => .count (f (.frame d))
  | .collect d env => .collect (f (.frame d)) env
  | .closeFrame d => .closeFrame (f (.frame d))
  | .drop d => .drop (f (.frame d))
  | .clean d => .clean (f (.frame d))
  | .reader i call => .reader (f (.reader i)) call

/-! ## the part that is mine -/

/-- The same session, on the same runtime. -/
structure SessionPart (μ : Share) (sess sess' : SessionState T) : Prop where
  context : sess.context = sess'.context
  has : μ.Has (.runtime sess.runtime)
  runtime : μ.number (.runtime sess.runtime) = sess'.runtime

/-- The same frame, on the same runtime. -/
structure FramePart (μ : Share) (f f' : FrameState T) : Prop where
  plan : f.plan = f'.plan
  dropped : f.dropped = f'.dropped
  has : μ.Has (.runtime f.runtime)
  runtime : μ.number (.runtime f.runtime) = f'.runtime

/-- The second library is the part of the first that is mine. -/
structure Part (μ : Share) (l l' : Library T) : Prop where
  runtimes : Picks Eq μ.runtimes l.runtimes l'.runtimes
  sessions : Picks (SessionPart μ) μ.sessions l.sessions l'.sessions
  frames : Picks (FramePart μ) μ.frames l.frames l'.frames
  readers : Picks Eq μ.readers l.readers l'.readers
  halted : l.halted = l'.halted

/-- At the start nothing is mine and nothing is there. -/
theorem part_start : Part .empty (.start : Library T) .start := ⟨.nil, .nil, .nil, .nil, rfl⟩

section Part

variable {μ : Share} {l l₁ l' l₁' : Library T} {r s d i : Nat} {sess sess' : SessionState T}
  {f f' : FrameState T}

/-- A session is the same after something has been made. -/
theorem SessionPart.extend (h : SessionPart μ sess sess') (mine : Bool) (l : Library T) :
    SessionPart (μ.extend mine l) sess sess' where
  context := h.context
  has := Share.has_extend h.has mine l
  runtime := by rw [Share.number_extend h.has mine l, h.runtime]

/-- A frame is the same after something has been made. -/
theorem FramePart.extend (h : FramePart μ f f') (mine : Bool) (l : Library T) :
    FramePart (μ.extend mine l) f f' where
  plan := h.plan
  dropped := h.dropped
  has := Share.has_extend h.has mine l
  runtime := by rw [Share.number_extend h.has mine l, h.runtime]

/-- A frame is the same when it has been closed in both. -/
theorem FramePart.close (h : FramePart μ f f') :
    FramePart μ (⟨none, f.runtime, f.dropped⟩ : FrameState T) ⟨none, f'.runtime, f'.dropped⟩ :=
  ⟨rfl, h.dropped, h.has, h.runtime⟩

/-- A frame is the same when it has been forgotten in both. -/
theorem FramePart.drop (h : FramePart μ f f') :
    FramePart μ { f with dropped := true } { f' with dropped := true } :=
  ⟨h.plan, rfl, h.has, h.runtime⟩

/-- The objects of each kind may be picked before anything is made: sessions
and frames keep their runtimes. -/
theorem Part.of_picks {mine : Bool}
    (hruntimes : Picks Eq (μ.extend mine l).runtimes l.runtimes l'.runtimes)
    (hsessions : Picks (SessionPart μ) (μ.extend mine l).sessions l.sessions l'.sessions)
    (hframes : Picks (FramePart μ) (μ.extend mine l).frames l.frames l'.frames)
    (hreaders : Picks Eq (μ.extend mine l).readers l.readers l'.readers)
    (hhalted : l.halted = l'.halted) : Part (μ.extend mine l) l l' where
  runtimes := hruntimes
  sessions := hsessions.imp fun _ _ h => h.extend mine l
  frames := hframes.imp fun _ _ h => h.extend mine l
  readers := hreaders
  halted := hhalted

/-- Nothing has been made. -/
theorem Part.stay (h : Part μ l l') : Part (μ.extend true l) l l' :=
  .of_picks (h.runtimes.stay true) (h.sessions.stay true) (h.frames.stay true)
    (h.readers.stay true) h.halted

/-- Both have made a runtime. -/
theorem Part.addRuntime (h : Part μ l l') :
    Part (μ.extend true { l with runtimes := l.runtimes ++ [true] })
      { l with runtimes := l.runtimes ++ [true] } { l' with runtimes := l'.runtimes ++ [true] } :=
  .of_picks (h.runtimes.grow rfl) (h.sessions.stay true) (h.frames.stay true)
    (h.readers.stay true) h.halted

/-- Both have made a session, on the same runtime. -/
theorem Part.addSession (h : Part μ l l') (hs : SessionPart μ sess sess') :
    Part (μ.extend true { l with sessions := l.sessions ++ [sess] })
      { l with sessions := l.sessions ++ [sess] } { l' with sessions := l'.sessions ++ [sess'] } :=
  .of_picks (h.runtimes.stay true) (h.sessions.grow hs) (h.frames.stay true)
    (h.readers.stay true) h.halted

/-- Both have made a frame, on the same runtime. -/
theorem Part.addFrame (h : Part μ l l') {runtime runtime' : Nat} (hr : μ.Has (.runtime runtime))
    (hr' : μ.number (.runtime runtime) = runtime') (plan : T.Plan) :
    Part (μ.extend true (l.addFrame runtime plan)) (l.addFrame runtime plan)
      (l'.addFrame runtime' plan) :=
  .of_picks (h.runtimes.stay true) (h.sessions.stay true) (h.frames.grow ⟨rfl, rfl, hr, hr'⟩)
    (h.readers.stay true) h.halted

/-- Both have made a reader of the same stream. -/
theorem Part.addReader (h : Part μ l l') (stream : Stream T) :
    Part (μ.extend true (l.addReader stream)) (l.addReader stream) (l'.addReader stream) :=
  .of_picks (h.runtimes.stay true) (h.sessions.stay true) (h.frames.stay true)
    (h.readers.grow rfl) h.halted

/-- A runtime of mine is opened or closed in both. -/
theorem Part.setRuntime (h : Part μ l l') (hr : μ.Has (.runtime r)) (open_ : Bool) :
    Part μ { l with runtimes := l.runtimes.set r open_ }
      { l' with runtimes := l'.runtimes.set (μ.number (.runtime r)) open_ } :=
  { h with runtimes := h.runtimes.set hr rfl }

/-- A session of mine gets the same context in both, or loses it. -/
theorem Part.setSession (h : Part μ l l') (hs : μ.Has (.session s))
    (hsess : SessionPart μ sess sess') (context : Option T.Ctx) :
    Part μ { l with sessions := l.sessions.set s { sess with context := context } }
      { l' with
        sessions := l'.sessions.set (μ.number (.session s)) { sess' with context := context } } :=
  { h with sessions := h.sessions.set hs ⟨rfl, hsess.has, hsess.runtime⟩ }

/-- A frame of mine changes alike in both. -/
theorem Part.setFrame (h : Part μ l l') (hd : μ.Has (.frame d)) (hf : FramePart μ f f') :
    Part μ (l.setFrame d f) (l'.setFrame (μ.number (.frame d)) f') :=
  { h with frames := h.frames.set hd hf }

/-- A reader of mine changes alike in both. -/
theorem Part.setReader (h : Part μ l l') (hi : μ.Has (.reader i)) (o : Option (ReaderState T)) :
    Part μ { l with readers := l.readers.set i o }
      { l' with readers := l'.readers.set (μ.number (.reader i)) o } :=
  { h with readers := h.readers.set hi rfl }

/-- The process is taken down in both, or in neither. -/
theorem Part.setHalted (h : Part μ l l') (halted : Bool) :
    Part μ { l with halted := halted } { l' with halted := halted } :=
  { h with halted := rfl }

end Part

/-! ## a step that is mine -/

/-- What a call shows and leaves, on the whole and on my part of it. -/
structure PartEnds (μ : Share) (out out' : Option (Observed T) × Library T) : Prop where
  observed : out.1 = out'.1
  part : Part (μ.extend true out.2) out.2 out'.2

section Mine

variable {μ : Share} {l l' : Library T}

/-- A call that makes nothing shows the same in both. -/
theorem Part.ends (h : Part μ l l') (o : Option (Observed T)) : PartEnds μ (o, l) (o, l') :=
  ⟨rfl, h.stay⟩

/-- The same result is shown, and stored alike. -/
theorem Part.reply (h : Part μ l l') (r : Except Stop α) {store store' : Library T → α → Library T}
    (hs : ∀ a, Part (μ.extend true (store l a)) (store l a) (store' l' a)) :
    PartEnds μ (l.reply r store) (l'.reply r store') := by
  cases r with
  | ok a => exact ⟨rfl, hs a⟩
  | error e =>
      have hstopped := h.setHalted (decide (e = .aborted))
      exact hstopped.ends _

/-- A method on an object that is the same in both. -/
theorem Part.on {ω ω' : Type} {R : ω → ω' → Prop} {object : Option ω} {object' : Option ω'}
    {method : ω → Option (Observed T) × Library T} {method' : ω' → Option (Observed T) × Library T}
    (h : Part μ l l') (hrel : Option.Rel R object object')
    (hm : ∀ w w', R w w' → PartEnds μ (method w) (method' w')) :
    PartEnds μ (l.on object method) (l'.on object' method') := by
  cases hrel with
  | none => exact h.ends none
  | some hR => exact hm _ _ hR

/-- A call in a session. -/
theorem Part.replyIn (h : Part μ l l') {s : Nat} {sess sess' : SessionState T}
    (hs : μ.Has (.session s)) (hsess : SessionPart μ sess sess')
    (asked : Except Stop (Outcome α × T.Ctx)) {store store' : Library T → α → Library T}
    (hstore : ∀ l l' a, Part μ l l' → Part (μ.extend true (store l a)) (store l a) (store' l' a)) :
    PartEnds μ (l.replyIn s sess asked store)
      (l'.replyIn (μ.number (.session s)) sess' asked store') := by
  cases asked with
  | error e => exact h.reply (.error e) fun a => hstore l l' a h
  | ok asked =>
      have hput := h.setSession hs hsess (some asked.2)
      exact hput.reply (seen asked.1) fun a => hstore _ _ a hput

/-- The frame behind a number, if the program still has it. -/
theorem Part.frame? (h : Part μ l l') {d : Nat} (hd : μ.Has (.frame d)) :
    Option.Rel (FramePart μ) (l.frame? d) (l'.frame? (μ.number (.frame d))) :=
  rel_filter (h.frames.rel hd) fun _ _ hf => congrArg _ hf.dropped

/-- The frame behind a number, if the program has forgotten it. -/
theorem Part.dropped? (h : Part μ l l') {d : Nat} (hd : μ.Has (.frame d)) :
    Option.Rel (FramePart μ) (l.dropped? d) (l'.dropped? (μ.number (.frame d))) :=
  rel_filter (h.frames.rel hd) fun _ _ hf => hf.dropped

/-- The other operand of a call, which may be null. -/
theorem Part.operand? (h : Part μ l l') {other : Option Nat}
    (ho : ∀ o, other = some o → μ.Has (.frame o)) :
    Option.Rel (Option.Rel (FramePart μ)) (l.operand? other)
      (l'.operand? (other.map fun o => μ.number (.frame o))) := by
  cases other with
  | none => exact .some .none
  | some o =>
      have hrel := h.frame? (ho o rfl)
      rw [Option.map_some, Library.operand?, Library.operand?]
      revert hrel
      generalize l.frame? o = x
      generalize l'.frame? (μ.number (.frame o)) = y
      rintro (hR | _)
      · exact .some (.some hR)
      · exact .none

/-- **One call** on objects that are mine. -/
theorem Part.perform (h : Part μ l l') (E : Engine T) {call : ApiCall}
    (hrefs : ∀ r ∈ call.refs, μ.Has r) :
    PartEnds μ (l.perform E call) (l'.perform E (call.renumber μ.number)) := by
  cases call with
  | createRuntime =>
      rw [ApiCall.renumber, Library.perform, Library.perform]
      refine h.reply _ fun _ => ?_
      exact h.addRuntime
  | newSession r =>
      have hr : μ.Has (.runtime r) := hrefs _ (by simp [ApiCall.refs])
      refine h.on (h.runtimes.rel hr) fun open_ _ heq => ?_
      subst heq
      refine h.reply _ fun context => ?_
      exact h.addSession ⟨rfl, hr, rfl⟩
  | closeRuntime r =>
      have hr : μ.Has (.runtime r) := hrefs _ (by simp [ApiCall.refs])
      have hclosed := h.setRuntime hr false
      refine h.on (h.runtimes.rel hr) fun _ _ _ => ?_
      refine h.reply _ fun _ => ?_
      exact hclosed.stay
  | sql s query =>
      have hs : μ.Has (.session s) := hrefs _ (by simp [ApiCall.refs])
      refine h.on (h.sessions.rel hs) fun sess sess' hsess => ?_
      rw [← hsess.context]
      refine h.replyIn hs hsess _ fun l l' plan hl => ?_
      exact hl.addFrame hsess.has hsess.runtime plan
  | registerCsv s tableName path | registerParquet s tableName path =>
      have hs : μ.Has (.session s) := hrefs _ (by simp [ApiCall.refs])
      refine h.on (h.sessions.rel hs) fun sess sess' hsess => ?_
      rw [← hsess.context]
      refine h.replyIn hs hsess _ fun l l' _ hl => ?_
      exact hl.stay
  | closeSession s =>
      have hs : μ.Has (.session s) := hrefs _ (by simp [ApiCall.refs])
      refine h.on (h.sessions.rel hs) fun sess sess' hsess => ?_
      have hclosed := h.setSession hs hsess none
      refine h.reply _ fun _ => ?_
      exact hclosed.stay
  | transform d op =>
      have hd : μ.Has (.frame d) := hrefs _ (by simp [ApiCall.refs])
      refine h.on (h.frame? hd) fun f f' hf => ?_
      rw [← hf.plan]
      refine h.reply _ fun plan => ?_
      exact h.addFrame hf.has hf.runtime plan
  | combine d other op =>
      have hd : μ.Has (.frame d) := hrefs _ (by simp [ApiCall.refs])
      have ho : ∀ o, other = some o → μ.Has (.frame o) := fun o ho =>
        hrefs _ (by simp [ApiCall.refs, ho])
      refine h.on (h.frame? hd) fun f f' hf => ?_
      refine h.on (h.operand? ho) fun o o' hoo => ?_
      have hplan : o.map FrameState.plan = o'.map FrameState.plan := by
        cases hoo with
        | none => rfl
        | some hR => simp [hR.plan]
      rw [← hf.plan, ← hplan]
      refine h.reply _ fun plan => ?_
      exact h.addFrame hf.has hf.runtime plan
  | count d =>
      have hd : μ.Has (.frame d) := hrefs _ (by simp [ApiCall.refs])
      refine h.on (h.frame? hd) fun f f' hf => ?_
      rw [← hf.plan]
      exact (h.setHalted _).ends _
  | collect d env =>
      have hd : μ.Has (.frame d) := hrefs _ (by simp [ApiCall.refs])
      refine h.on (h.frame? hd) fun f f' hf => ?_
      rw [← hf.plan]
      refine h.reply _ fun stream => ?_
      exact h.addReader stream
  | closeFrame d =>
      have hd : μ.Has (.frame d) := hrefs _ (by simp [ApiCall.refs])
      refine h.on (h.frame? hd) fun f f' hf => ?_
      have hclosed := h.setFrame hd hf.close
      refine h.reply _ fun _ => ?_
      exact hclosed.stay
  | drop d =>
      have hd : μ.Has (.frame d) := hrefs _ (by simp [ApiCall.refs])
      refine h.on (h.frame? hd) fun f f' hf => ?_
      have hforgotten := h.setFrame hd hf.drop
      exact hforgotten.ends none
  | clean d =>
      have hd : μ.Has (.frame d) := hrefs _ (by simp [ApiCall.refs])
      refine h.on (h.dropped? hd) fun f f' hf => ?_
      have hclosed := h.setFrame hd hf.close
      refine h.reply _ fun _ => ?_
      exact hclosed.stay
  | reader i call =>
      have hi : μ.Has (.reader i) := hrefs _ (by simp [ApiCall.refs])
      refine h.on (h.readers.rel hi) fun o _ heq => ?_
      subst heq
      cases o with
      | none => exact h.ends _
      | some r =>
          have hread := h.setReader hi (r.call call).2
          exact hread.ends _

/-- A step of mine shows me what it shows me alone. -/
theorem Part.after_mine (h : Part μ l l') {s : Step T} (hrefs : ∀ r ∈ s.2.refs, μ.Has r) :
    l.see s = l'.see (s.1, s.2.renumber μ.number) ∧
      Part (μ.extend true (l.after s)) (l.after s) (l'.after (s.1, s.2.renumber μ.number)) := by
  simp only [Library.see, Library.after, Library.step, ← h.halted]
  split
  · exact ⟨rfl, h.stay⟩
  · have hends := h.perform s.1 hrefs
    exact ⟨hends.observed, hends.part⟩

/-- A call of mine is on objects with open runtimes in both, or in neither. -/
theorem Part.allows (h : Part μ l l') {call : ApiCall} (hrefs : ∀ r ∈ call.refs, μ.Has r) :
    l'.allows (call.renumber μ.number) = l.allows call := by
  have hopen : ∀ {runtime runtime' : Nat}, μ.Has (.runtime runtime) →
      μ.number (.runtime runtime) = runtime' → l'.runtimeOpen runtime' = l.runtimeOpen runtime := by
    rintro runtime _ hr rfl
    obtain ⟨a, b, ha, hb, rfl⟩ := h.runtimes.get hr
    have hsame : l'.runtimes[rank μ.runtimes runtime]? = l.runtimes[runtime]? := hb.trans ha.symm
    exact congrArg (· == some true) hsame
  cases call with
  | sql s query | registerCsv s tableName path | registerParquet s tableName path =>
      have hs : μ.Has (.session s) := hrefs _ (by simp [ApiCall.refs])
      obtain ⟨sess, sess', hsess, hsess', hpart⟩ := h.sessions.get hs
      change Option.all _ l'.sessions[rank μ.sessions s]? = Option.all _ l.sessions[s]?
      rw [show l.sessions[s]? = some sess from hsess,
        show l'.sessions[rank μ.sessions s]? = some sess' from hsess']
      simp [hpart.context, hopen hpart.has hpart.runtime]
  | transform d _ | combine d _ _ | count d | collect d _ =>
      have hd : μ.Has (.frame d) := hrefs _ (by simp [ApiCall.refs])
      have hrel := h.frame? hd
      simp only [ApiCall.renumber, Library.allows]
      revert hrel
      generalize l.frame? d = x
      generalize l'.frame? (μ.number (.frame d)) = y
      rintro (hf | _)
      · simp [hf.plan, hopen hf.has hf.runtime]
      · rfl
  | _ => rfl

end Mine

/-! ## a step that is not mine -/

/-- A step leaves what is mine as it is, and the process running. -/
structure Spares (l : Library T) (μ : Share) (s : Step T) : Prop where
  same : ∀ r ∈ s.2.changes, μ.Has r → SameAt l (l.after s) r
  halted : (l.after s).halted = l.halted

/-- A step of another thread leaves my part where it is. -/
theorem Part.after_other {μ : Share} {l l' : Library T} (h : Part μ l l') {s : Step T}
    (hs : Spares l μ s) : Part (μ.extend false (l.after s)) (l.after s) l' := by
  have ht : Touches s.2.changes l (l.after s) := touches_after s
  refine .of_picks (h.runtimes.spare ht.runtimes ?_) (h.sessions.spare ht.sessions ?_)
    (h.frames.spare ht.frames ?_) (h.readers.spare ht.readers ?_) ?_
  · intro r hr hc
    exact hs.same (.runtime r) hc hr
  · intro s' hs' hc
    exact hs.same (.session s') hc hs'
  · intro d hd hc
    exact hs.same (.frame d) hc hd
  · intro i hi hc
    exact hs.same (.reader i) hc hi
  · rw [hs.halted, h.halted]

/-! ## runs -/

/-- A step of some thread; it is mine if it is marked. -/
def sharedAfter (x : Library T × Share) (i : Bool × Step T) : Library T × Share :=
  (x.1.after i.2, x.2.extend i.1 (x.1.after i.2))

/-- I use no object but mine, and the others leave mine as they are. -/
structure Considerate (x : Library T × Share) (i : Bool × Step T) : Prop where
  mine : i.1 = true → ∀ r ∈ i.2.2.refs, x.2.Has r
  others : i.1 = false → Spares x.1 x.2 i.2

/-- I use nothing but what is mine. -/
theorem considerate_mine {x : Library T × Share} {s : Step T} (h : ∀ r ∈ s.2.refs, x.2.Has r) :
    Considerate x (true, s) :=
  ⟨fun _ => h, fun hi => by cases hi⟩

/-- Another thread that works on other objects. -/
theorem considerate_other {x : Library T × Share} {s : Step T}
    (h : ∀ r ∈ s.2.changes, ¬ x.2.Has r) (hrun : (x.1.after s).halted = x.1.halted) :
    Considerate x (false, s) :=
  ⟨fun hi => (by cases hi), fun _ => ⟨fun r hr hhas => absurd hhas (h r hr), hrun⟩⟩

/-- Every step of a run is. -/
def Confined (steps : List (Bool × Step T)) : Prop :=
  AllSteps sharedAfter Considerate (.start, .empty) steps

/-- My steps, with my objects numbered as if there were no others. -/
def alone (steps : List (Bool × Step T)) : List (Step T) :=
  project (fun i => !i.1) sharedAfter (fun x i => (i.2.1, i.2.2.renumber x.2.number))
    (.start, .empty) steps

/-- What I see of a run. -/
def mineSeen (steps : List (Bool × Step T)) : List (Option (Observed T)) :=
  visible (fun i => !i.1) (fun p i => p.after i.2) (fun p i => p.see i.2) Process.start steps

/-- The marks change nothing of what is seen. -/
theorem observations_marked (p : Process T) (steps : List (Bool × Step T)) :
    observations (fun p i => p.after i.2) (fun p i => p.see i.2) p steps =
      observations Process.after Process.see p (steps.map Prod.snd) :=
  (observations_map id Prod.snd (fun _ _ => rfl) p steps).symm

/-- Keeping track of what is mine changes nothing of what is seen. -/
theorem observations_shared (x : Library T × Share) (steps : List (Bool × Step T)) :
    observations sharedAfter (fun x i => x.1.see i.2) x steps =
      observations Library.after Library.see x.1 (steps.map Prod.snd) :=
  (observations_map Prod.fst Prod.snd (fun _ _ => rfl) x steps).symm

/-- Nor does it change what is allowed. -/
theorem allowed_shared (x : Library T × Share) (steps : List (Bool × Step T)) :
    AllowedFrom x.1 (steps.map Prod.snd) ↔
      AllSteps sharedAfter (fun x i => x.1.allows i.2.2 = true) x steps :=
  allSteps_map Prod.fst Prod.snd (fun _ _ => rfl) x steps

/-- **The other threads are invisible.**  In every run in which nobody uses
an object after its runtime is closed, I keep to my own objects and the
others spare them, however their calls come in between, I see exactly what I
would see if I were alone and the engine answered each of my calls as it
does here. -/
theorem others_invisible (steps : List (Bool × Step T)) (h : Allowed (steps.map Prod.snd))
    (hc : Confined steps) :
    mineSeen steps = observations Process.after Process.see .start (alone steps) := by
  have hsteps := hc.and ((allowed_shared (.start, .empty) steps).mp h)
  -- one step, of another thread and of mine
  have hother : ∀ (x : Library T × Share) (l' : Library T) (i : Bool × Step T), Part x.2 x.1 l' →
      Considerate x i ∧ x.1.allows i.2.2 = true → (!i.1) = true →
        Part (sharedAfter x i).2 (sharedAfter x i).1 l' := by
    rintro x l' ⟨mine, s⟩ hpart ⟨hcon, -⟩ hi
    obtain rfl : mine = false := by simpa using hi
    exact hpart.after_other (hcon.others rfl)
  have hmine : ∀ (x : Library T × Share) (l' : Library T) (i : Bool × Step T), Part x.2 x.1 l' →
      Considerate x i ∧ x.1.allows i.2.2 = true → (!i.1) = false →
        x.1.see i.2 = l'.see (i.2.1, i.2.2.renumber x.2.number) ∧
          Part (sharedAfter x i).2 (sharedAfter x i).1
            (l'.after (i.2.1, i.2.2.renumber x.2.number)) := by
    rintro x l' ⟨mine, s⟩ hpart ⟨hcon, -⟩ hi
    obtain rfl : mine = true := by simpa using hi
    exact hpart.after_mine (hcon.mine rfl)
  have halone : Allowed (alone steps) := by
    refine AllSteps.project hother ?_ ?_ part_start hsteps
    · intro x l' i hpart hs hi
      exact (hmine x l' i hpart hs hi).2
    · intro x l' i hpart hs hi
      have hi' : i.1 = true := by simpa using hi
      rw [hpart.allows (hs.1.mine hi')]
      exact hs.2
  calc mineSeen steps
      = visible (fun i => !i.1) sharedAfter (fun x i => x.1.see i.2) (.start, .empty) steps := by
        rw [mineSeen, visible, visible, observations_marked, observations_shared,
          (agrees_start.run h).1]
    _ = observations Library.after Library.see .start (alone steps) :=
        visible_eq_observations hother hmine part_start hsteps
    _ = observations Process.after Process.see .start (alone steps) :=
        (agrees_start.run halone).1.symm

/-- Two threads on one runtime, each with a session of its own. -/
def twoThreads : List (Bool × Step planTypes) :=
  [(true, .createRuntime), (false, .newSession 0), (true, .newSession 0),
    (false, .sql 0 (some (encodeUtf16 "SELECT 1".toList))),
    (true, .sql 1 (some (encodeUtf16 "SELECT 1".toList))), (false, .collect 0 ⟨none, none, none⟩),
    (true, .collect 1 ⟨none, none, none⟩), (false, .closeSession 0),
    (false, .reader 0 (.close none)), (true, .reader 1 (.next none)), (false, .closeFrame 0),
    (true, .closeFrame 1), (true, .reader 1 (.next none))].map fun i => (i.1, planEngine, i.2)

/-- What the marked one sees. -/
theorem others_invisible_twoThreads :
    mineSeen twoThreads =
      [some (.called (.ok ())), some (.called (.ok ())), some (.called (.ok ())),
        some (.called (.ok ())), some (.next (.ok true)), some (.called (.ok ())),
        some (.next (.ok false))] := by
  rw [others_invisible twoThreads
    ⟨rfl, rfl, rfl, rfl, rfl, rfl, rfl, rfl, rfl, rfl, rfl, rfl, rfl, trivial⟩
    ⟨considerate_mine (by decide), considerate_other (by decide) rfl, considerate_mine (by decide),
      considerate_other (by decide) rfl, considerate_mine (by decide),
      considerate_other (by decide) rfl, considerate_mine (by decide),
      considerate_other (by decide) rfl, considerate_other (by decide) rfl,
      considerate_mine (by decide), considerate_other (by decide) rfl,
      considerate_mine (by decide), considerate_mine (by decide), trivial⟩]
  rfl

end DataFusionPanama
