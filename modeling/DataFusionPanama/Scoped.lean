import DataFusionPanama.Base.Scope
import DataFusionPanama.Correspondence
import DataFusionPanama.Heap

/-!
# DataFusionPanama.Scoped

Programs that hold their objects in `try`-with-resources blocks, as `Main`
and the interfaces' `close` methods are meant for.  Such a program gets what
the binding leaves to its caller right, without doing anything about it: it
never uses an object whose runtime is closed, and whatever is thrown and
wherever, it leaves nothing on the native side but what no block can give
back: the stream of a collect whose import threw.

A program runs against an `Environment`, which says how the engine behaves
at each of its calls and which closes of a reader throw.
-/

namespace DataFusionPanama

variable {T : Types}

/-! ## programs -/

/-- The end of a block.  Closing a reader may throw `io`. -/
def Ref.close (io : Option JString) : Ref → ApiCall
  | .runtime r => .closeRuntime r
  | .session s => .closeSession s
  | .frame d => .closeFrame d
  | .reader i => .reader i (.close io)

namespace ApiCall

/-- The calls that neither make an object nor end one. -/
def plain : ApiCall → Bool
  | .registerCsv .. | .registerParquet .. | .count _ => true
  | .reader _ call => !call.isClose
  | _ => false

/-- The object a call makes in a process, if it does. -/
def made (p : Process T) : ApiCall → Option Ref
  | .createRuntime => some (.runtime p.runtimes.length)
  | .newSession _ => some (.session p.sessions.length)
  | .sql .. | .transform .. | .combine .. => some (.frame p.frames.length)
  | .collect .. => some (.reader p.readers.length)
  | _ => none

end ApiCall

/-- What is not up to the program. -/
structure Environment (T : Types) where
  engine : Nat → Engine T
  io : Nat → Option JString

/-- A program with its objects in blocks. -/
abbrev Program (T : Types) := Block ApiCall Ref (Option (Observed T))

/-- A call that returned. -/
def returned : Option (Observed T) → Bool
  | some (.called (.ok _)) => true
  | _ => false

/-- The next step of a program that has come this far. -/
def Environment.step (env : Environment T) (history : List (Step T)) (c : ApiCall) : Step T :=
  (env.engine history.length, c)

/-- The process as the host of a program; its state is what the program has
done so far. -/
def Environment.host (env : Environment T) :
    Host (List (Step T)) ApiCall Ref (Option (Observed T)) where
  step history c :=
    ((Process.start.run history).see (env.step history c), history ++ [env.step history c])
  made history c :=
    if returned ((Process.start.run history).see (env.step history c)) then
      c.made (Process.start.run history)
    else none
  close history r :=
    let s := env.step history (r.close (env.io history.length))
    (returned ((Process.start.run history).see s), history ++ [s])

/-- The steps of a run of a whole program. -/
def Program.steps (program : Program T) (env : Environment T) : List (Step T) :=
  (program.exec env.host []).2

/-! ## what is open -/

namespace Library

/-- The objects an open object needs; nothing is said about one that is not
open. -/
def needs (l : Library T) : Ref → Option (List Ref)
  | .runtime r => if l.runtimes[r]? = some true then some [] else none
  | .session s => l.sessions[s]?.bind fun sess => sess.context.map fun _ => [.runtime sess.runtime]
  | .frame d => l.frames[d]?.bind fun f => f.plan.map fun _ => [.runtime f.runtime]
  | .reader i => l.readers[i]?.bind fun o => o.map fun _ => []

/-- The objects of the blocks around are open, and each needs only what is
further out. -/
def Opens (l : Library T) : List Ref → Prop
  | [] => True
  | r :: scope =>
      r ∉ scope ∧ (∃ ns, l.needs r = some ns ∧ ∀ n ∈ ns, n ∈ scope) ∧ l.Opens scope

/-- The program has not forgotten any of its frames. -/
def NoneDropped (l : Library T) : Prop := ∀ f ∈ l.frames, f.dropped = false

/-- What is open has become this. -/
structure Becomes (l l' : Library T) (needs : Ref → Option (List Ref)) : Prop where
  needs : l'.needs = needs
  kept : l.NoneDropped → l'.NoneDropped

section Opens

variable {l l' : Library T} {scope : List Ref}

/-- What is in scope is open, with what it needs. -/
theorem Opens.mem (h : l.Opens scope) {r : Ref} (hr : r ∈ scope) :
    ∃ ns, l.needs r = some ns ∧ ∀ n ∈ ns, n ∈ scope := by
  induction scope with
  | nil => cases hr
  | cons r' scope ih =>
      obtain ⟨-, ⟨ns, hns, hsub⟩, hrest⟩ := h
      rcases List.mem_cons.mp hr with rfl | hr
      · exact ⟨ns, hns, fun n hn => List.mem_cons_of_mem _ (hsub n hn)⟩
      · obtain ⟨ns', hns', hsub'⟩ := ih hrest hr
        exact ⟨ns', hns', fun n hn => List.mem_cons_of_mem _ (hsub' n hn)⟩

/-- The scope stays open where nothing in it changes. -/
theorem Opens.congr (h : l.Opens scope) (hn : ∀ r ∈ scope, l'.needs r = l.needs r) :
    l'.Opens scope := by
  induction scope with
  | nil => trivial
  | cons r scope ih =>
      obtain ⟨hnew, ⟨ns, hns, hsub⟩, hrest⟩ := h
      exact ⟨hnew, ⟨ns, (hn r List.mem_cons_self).trans hns, hsub⟩,
        ih hrest fun r' hr' => hn r' (List.mem_cons_of_mem _ hr')⟩

/-- An open object is one that is there. -/
theorem exists_session {s : Nat} {ns : List Ref} (h : l.needs (.session s) = some ns) :
    ∃ context rt, l.sessions[s]? = some ⟨some context, rt⟩ ∧ ns = [.runtime rt] := by
  simp only [needs, Option.bind_eq_some_iff, Option.map_eq_some_iff] at h
  obtain ⟨⟨_, rt⟩, hs, context, rfl, rfl⟩ := h
  exact ⟨context, rt, hs, rfl⟩

/-- An open frame has a plan. -/
theorem exists_frame {d : Nat} {ns : List Ref} (h : l.needs (.frame d) = some ns) :
    ∃ plan rt dropped, l.frames[d]? = some ⟨some plan, rt, dropped⟩ ∧ ns = [.runtime rt] := by
  simp only [needs, Option.bind_eq_some_iff, Option.map_eq_some_iff] at h
  obtain ⟨⟨_, rt, dropped⟩, hd, plan, rfl, rfl⟩ := h
  exact ⟨plan, rt, dropped, hd, rfl⟩

/-- What a session in scope needs is in scope and open. -/
theorem Opens.session (h : l.Opens scope) {s : Nat} (hs : .session s ∈ scope) :
    ∃ context rt, l.sessions[s]? = some ⟨some context, rt⟩ ∧ .runtime rt ∈ scope := by
  obtain ⟨ns, hns, hsub⟩ := h.mem hs
  obtain ⟨context, rt, hget, rfl⟩ := exists_session hns
  exact ⟨context, rt, hget, hsub _ List.mem_cons_self⟩

/-- A frame in scope is open, and its runtime is in scope. -/
theorem Opens.frame (h : l.Opens scope) (hk : l.NoneDropped) {d : Nat} (hd : .frame d ∈ scope) :
    ∃ plan rt, l.frame? d = some ⟨some plan, rt, false⟩ ∧ .runtime rt ∈ scope := by
  obtain ⟨ns, hns, hsub⟩ := h.mem hd
  obtain ⟨plan, rt, dropped, hget, rfl⟩ := exists_frame hns
  obtain rfl : dropped = false := hk _ (List.mem_of_getElem? hget)
  exact ⟨plan, rt, by rw [frame?, hget]; rfl, hsub _ List.mem_cons_self⟩

/-- A runtime in scope is open. -/
theorem Opens.runtimeOpen (h : l.Opens scope) {r : Nat} (hr : .runtime r ∈ scope) :
    l.runtimeOpen r = true := by
  obtain ⟨ns, hns, -⟩ := h.mem hr
  have hopen : l.runtimes[r]? = some true := by
    simp only [needs] at hns
    split at hns
    · assumption
    · cases hns
  simp [Library.runtimeOpen, hopen]

/-- **A call on what is in scope** is allowed. -/
theorem Opens.allows (h : l.Opens scope) (hk : l.NoneDropped) {c : ApiCall}
    (hc : ∀ r ∈ c.refs, r ∈ scope) : l.allows c = true := by
  cases c with
  | sql s | registerCsv s | registerParquet s =>
      obtain ⟨context, rt, hget, hrt⟩ := h.session (hc (.session s) (by simp [ApiCall.refs]))
      simp [Library.allows, hget, h.runtimeOpen hrt]
  | transform d | combine d | count d | collect d =>
      obtain ⟨plan, rt, hget, hrt⟩ := h.frame hk (hc (.frame d) (by simp [ApiCall.refs]))
      simp [Library.allows, hget, h.runtimeOpen hrt]
  | _ => rfl

end Opens

/-! ## what calls open and close -/

section Becomes

variable {l l' l'' : Library T}

/-- What is open is the same. -/
theorem Becomes.trans {needs : Ref → Option (List Ref)} (h : Becomes l l' l.needs)
    (h' : Becomes l' l'' needs) : Becomes l l'' needs := ⟨h'.needs, h'.kept ∘ h.kept⟩

end Becomes

/-- A call has returned and done this to what is open, or nothing. -/
def Leaves (l : Library T) (out : Option (Observed T) × Library T)
    (needs : Ref → Option (List Ref)) : Prop :=
  returned out.1 = true ∧ Becomes l out.2 needs ∨ returned out.1 = false ∧ Becomes l out.2 l.needs

section Calls

variable {α : Type} {l : Library T} {scope : List Ref}

end Calls

end Library

/-! ## scoped programs -/

/-- The library after these steps. -/
abbrev library (history : List (Step T)) : Library T := history.foldl Library.after .start

/-- What holds of a program inside of its blocks. -/
structure InScope (history : List (Step T)) (scope : List Ref) : Prop where
  allowed : Allowed history
  opens : (library history).Opens scope
  kept : (library history).NoneDropped
  /-- Nothing else is open, as long as the process is there. -/
  only : (library history).halted = false →
    ∀ r ns, (library history).needs r = some ns → r ∈ scope

section Step

variable {history : List (Step T)} {scope : List Ref} {s : Step T}

/-- One step more. -/
theorem library_concat (history : List (Step T)) (s : Step T) :
    library (history ++ [s]) = (library history).after s := by
  rw [library, List.foldl_append]
  rfl

/-- A program in scope agrees with the library. -/
theorem InScope.agrees (h : InScope history scope) :
    Agrees (Process.start.run history) (library history) := (agrees_start.run h.allowed).2

/-- A call in scope shows what it shows of the library. -/
theorem InScope.see (h : InScope history scope) (hs : (library history).allows s.2 = true) :
    (Process.start.run history).see s = (library history).see s := (agrees_step h.agrees s hs).1

/-- A call in scope is allowed. -/
theorem InScope.allowed_concat (h : InScope history scope)
    (hs : (library history).allows s.2 = true) : Allowed (history ++ [s]) :=
  allSteps_append.mpr ⟨h.allowed, hs, trivial⟩

/-- A step that opens and closes nothing. -/
theorem InScope.stay (h : InScope history scope) (hs : (library history).allows s.2 = true)
    (hb : (library history).halted = false →
      Library.Becomes (library history) ((library history).perform s.1 s.2).2
        (library history).needs) : InScope (history ++ [s]) scope := by
  refine ⟨h.allowed_concat hs, ?_, ?_, ?_⟩ <;> rw [library_concat, Library.after, Library.step] <;>
    cases hl : (library history).halted
  · exact h.opens.congr fun r _ => congrFun (hb hl).needs r
  · exact h.opens
  · exact (hb hl).kept h.kept
  · exact h.kept
  · intro _ r ns hr
    exact h.only hl r ns ((congrFun (hb hl).needs r).symm.trans hr)
  · intro hno
    rw [if_pos rfl, hl] at hno
    cases hno

/-- A step that opens an object. -/
theorem InScope.opened (h : InScope history scope) (hs : (library history).allows s.2 = true)
    (hl : (library history).halted = false) {r : Ref} {ns : List Ref}
    (hr : (library history).needs r = none) (hns : ∀ n ∈ ns, n ∈ scope)
    (hb : Library.Becomes (library history) ((library history).perform s.1 s.2).2
      (Function.update (library history).needs r (some ns))) :
    InScope (history ++ [s]) (r :: scope) := by
  have hnot : r ∉ scope := fun hmem => by
    obtain ⟨ns', hns', -⟩ := h.opens.mem hmem
    rw [hr] at hns'
    cases hns'
  have hother : ∀ r', r' ≠ r → ((library history).perform s.1 s.2).2.needs r' =
      (library history).needs r' := fun r' hne => by rw [hb.needs, Function.update_of_ne hne]
  refine ⟨h.allowed_concat hs, ?_, ?_, ?_⟩ <;>
    rw [library_concat, Library.after, Library.step, hl, if_neg Bool.false_ne_true]
  · refine ⟨hnot, ⟨ns, by rw [hb.needs, Function.update_self], hns⟩, ?_⟩
    exact h.opens.congr fun r' hr' => hother r' fun he => hnot (he ▸ hr')
  · exact hb.kept h.kept
  · intro _ r' ns' hr'
    by_cases he : r' = r
    · exact he ▸ List.mem_cons_self
    · exact List.mem_cons_of_mem _ (h.only hl r' ns' ((hother r' he).symm.trans hr'))

/-- A step that closes the innermost object. -/
theorem InScope.closed {r : Ref} (h : InScope history (r :: scope))
    (hs : (library history).allows s.2 = true)
    (hb : Library.Becomes (library history) ((library history).perform s.1 s.2).2
      (Function.update (library history).needs r none)) :
    InScope (history ++ [s]) scope := by
  obtain ⟨hnot, -, hrest⟩ := h.opens
  refine ⟨h.allowed_concat hs, ?_, ?_, ?_⟩ <;> rw [library_concat, Library.after, Library.step] <;>
    cases hl : (library history).halted
  · refine hrest.congr fun r' hr' => ?_
    have hne : r' ≠ r := by
      rintro rfl
      exact hnot hr'
    exact (congrFun hb.needs r').trans (Function.update_of_ne hne _ _)
  · exact hrest
  · exact hb.kept h.kept
  · exact h.kept
  · intro _ r' ns hr'
    by_cases he : r' = r
    · have hnone : ((library history).perform s.1 s.2).2.needs r' = none := by
        rw [hb.needs, he, Function.update_self]
      exact absurd (hnone.symm.trans hr') (by simp)
    · have hmem := h.only hl r' ns (((congrFun hb.needs r').trans
        (Function.update_of_ne he _ _)).symm.trans hr')
      exact (List.mem_cons.mp hmem).resolve_left he
  · intro hno
    rw [if_pos rfl, hl] at hno
    cases hno

end Step

section Agrees

variable {p : Process T} {l : Library T}

/-- A live runtime is that of an open wrapper. -/
theorem Agrees.mem_handles (h : Agrees p l) {a : Addr}
    (ha : p.native.boxes.get? a = some .runtime) : (.runtime, a) ∈ p.handles :=
  (h.owned.alive .runtime a).mp (by rw [Native.kind?, ha]; rfl)

/-- A call that is allowed passes on no dangling pointer. -/
theorem Agrees.runtimeOpen (h : Agrees p l) {s : Step T} (ha : l.allows s.2 = true) :
    p.RuntimeOpen s := by
  obtain ⟨E, call⟩ := s
  intro _ q hq hpass hd hmem
  have hsession : ∀ {n : Nat} {w : DataFusionSessionImpl} {given : Prop} {creates : Option Kind},
      (l.sessions[n]?.all fun sess => sess.context.isNone || l.runtimeOpen sess.runtime) = true →
      p.sessions[n]? = some w → ApiCall.sessionRequest w given creates = q → hd ∈ p.handles := by
    rintro n w given creates ha hw rfl
    obtain ⟨sess, hl, hst⟩ := h.represents.sessions.get hw
    obtain rfl := List.mem_singleton.mp hmem
    refine h.mem_handles (h.represents.session_runtime hl hst ha fun hnone => ?_)
    exact (hpass.2 _ List.mem_cons_self) (hst.stands.pointer_eq_zero_iff.mpr (by rw [hnone]; rfl))
  have hframe : ∀ {d : Nat} {w : DataFusionDataFrameImpl},
      ((l.frame? d).all fun f => f.plan.isNone || l.runtimeOpen f.runtime) = true →
      p.frame? d = some w → (.dataframe, w.pointer) ∈ q.own →
      q.copied = [(.runtime, w.runtimePointer)] → hd ∈ p.handles := by
    intro d w ha hw hown hcopied
    rw [hcopied] at hmem
    obtain rfl := List.mem_singleton.mp hmem
    have hrel := h.represents.frame? d
    rw [hw] at hrel
    cases hl : l.frame? d with
    | none => rw [hl] at hrel; cases hrel
    | some st =>
        rw [hl] at hrel
        have hst := Option.rel_some_some.mp hrel
        refine h.mem_handles (h.represents.frame_runtime hl hst ha fun hnone => ?_)
        exact (hpass.2 _ hown) (hst.stands.pointer_eq_zero_iff.mpr (by rw [hnone]; rfl))
  cases call with
  | createRuntime =>
      obtain rfl := Option.some.inj hq
      cases hmem
  | newSession r =>
      obtain ⟨w, -, rfl⟩ := Option.map_eq_some_iff.mp hq
      cases hmem
  | sql n query | registerCsv n tableName path | registerParquet n tableName path =>
      obtain ⟨w, hw, hreq⟩ := Option.map_eq_some_iff.mp hq
      exact hsession ha hw hreq
  | transform d op | count d | collect d env =>
      obtain ⟨w, hw, rfl⟩ := Option.map_eq_some_iff.mp hq
      exact hframe ha hw List.mem_cons_self rfl
  | combine d other op =>
      obtain ⟨w, hw, hq⟩ := Option.bind_eq_some_iff.mp hq
      obtain ⟨o, -, rfl⟩ := Option.map_eq_some_iff.mp hq
      exact hframe ha hw List.mem_cons_self rfl
  | _ => cases hq

/-- A program that is allowed is safe. -/
theorem Agrees.safe (h : Agrees p l) {steps : List (Step T)} (ha : AllowedFrom l steps) :
    AllSteps Process.after Process.Safe p steps := by
  induction steps generalizing p l with
  | nil => trivial
  | cons s steps ih =>
      exact ⟨(Process.safe_iff_runtimeOpen h.owned s).mpr (h.runtimeOpen ha.1),
        ih (agrees_step h s ha.1).2 ha.2⟩

end Agrees

end DataFusionPanama
