import Mathlib.Data.BitVec

/-!
# DataFusionPanama.Base.Foreign

A foreign call on a 64-bit machine, from a Java method handle to an
`extern "C"` function.  Each argument travels in a word of its own, of which
it takes as many of the low bits as its type is wide; what the rest of the
word holds is anybody's guess (`junk`), and so it is for a result.

The caller checks its arguments against a `FunctionDescriptor` only, as
`invokeExact` does, and the callee reads its words by its own parameter
types only.  `enter_of_values` is what makes a call arrive: the arguments
have to be, one by one, the values the parameters stand for.
-/

namespace DataFusionPanama

/-- A register, or a slot of the stack. -/
abbrev Word := BitVec 64

/-! ## the Java side -/

inductive ValueLayout where
  | address | javaLong | javaInt | javaBoolean
  deriving DecidableEq, Repr

inductive Value where
  | address (a : Nat)
  | long (n : Int)
  | int (n : Int)
  | boolean (b : Bool)
  deriving DecidableEq, Repr

namespace Value

def layout : Value → ValueLayout
  | .address _ => .address
  | .long _ => .javaLong
  | .int _ => .javaInt
  | .boolean _ => .javaBoolean

/-- A value its Java type can hold. -/
def Fits : Value → Prop
  | .address a => a < 2 ^ 64
  | .long n => -2 ^ 63 ≤ n ∧ n < 2 ^ 63
  | .int n => -2 ^ 31 ≤ n ∧ n < 2 ^ 31
  | .boolean _ => True

/-- A value on its way, the bits above it left as they were. -/
def write (junk : Word) : Value → Word
  | .address a => BitVec.ofNat 64 a
  | .long n => BitVec.ofInt 64 n
  | .int n => junk.extractLsb' 32 32 ++ BitVec.ofInt 32 n
  | .boolean b => junk.extractLsb' 8 56 ++ BitVec.ofNat 8 b.toNat

end Value

/-- A result as the caller takes it. -/
def ValueLayout.read (w : Word) : ValueLayout → Value
  | .address => .address w.toNat
  | .javaLong => .long w.toInt
  | .javaInt => .int (w.setWidth 32).toInt
  | .javaBoolean => .boolean (w.setWidth 8 != 0)

structure FunctionDescriptor where
  /-- `none` is `ofVoid`. -/
  result : Option ValueLayout
  arguments : List ValueLayout
  deriving DecidableEq, Repr

/-- The words of a call, unless its arguments are not of the types the
descriptor says, which is a `WrongMethodTypeException`. -/
def FunctionDescriptor.invokeExact (d : FunctionDescriptor) (junk : Nat → Word)
    (arguments : List Value) : Option (List Word) :=
  if arguments.map Value.layout = d.arguments then
    some (arguments.mapIdx fun i v => v.write (junk i))
  else none

/-! ## the native side -/

inductive CType where
  | pointer | usize | cInt | bool
  deriving DecidableEq, Repr

namespace CType

abbrev Val : CType → Type
  | .pointer | .usize => Nat
  | .cInt => Int
  | .bool => Bool

/-- A parameter as the callee takes it.  There is no third `bool`. -/
def read (w : Word) : (t : CType) → Option t.Val
  | .pointer | .usize => some w.toNat
  | .cInt => some (w.setWidth 32).toInt
  | .bool => if w.setWidth 8 = 0 then some false else if w.setWidth 8 = 1 then some true else none

/-- The Java value a value stands for. -/
def value : (t : CType) → t.Val → Value
  | .pointer, a => .address a
  | .usize, n => .long (n : Nat)
  | .cInt, n => .int n
  | .bool, b => .boolean b

/-- A result on its way. -/
def write (junk : Word) (t : CType) (v : t.Val) : Word := (t.value v).write junk

def layout : CType → ValueLayout
  | .pointer => .address
  | .usize => .javaLong
  | .cInt => .javaInt
  | .bool => .javaBoolean

end CType

/-- A function of parameters of these types. -/
abbrev Curried (ρ : Type) : List CType → Type
  | [] => ρ
  | t :: ts => t.Val → Curried ρ ts

/-- Values for these parameters. -/
abbrev Vals : List CType → Type
  | [] => Unit
  | t :: ts => t.Val × Vals ts

section

variable {ρ : Type}

def apply : (ts : List CType) → Curried ρ ts → Vals ts → ρ
  | [], r, _ => r
  | _ :: ts, f, (v, vs) => apply ts (f v) vs

def values : (ts : List CType) → Vals ts → List Value
  | [], _ => []
  | t :: ts, (v, vs) => t.value v :: values ts vs

/-- A function is entered: it reads each parameter from its word. -/
def enter : (ts : List CType) → Curried ρ ts → List Word → Option ρ
  | [], r, _ => some r
  | _ :: _, _, [] => none
  | t :: ts, f, w :: ws => (t.read w).bind fun v => enter ts (f v) ws

end

/-! ## arriving -/

/-- The low bits of a word are what was written there. -/
theorem setWidth_append_low {v k : Nat} (x : BitVec v) (y : BitVec k) :
    (x ++ y).setWidth k = y := by
  rw [BitVec.setWidth_append, dif_pos (Nat.le_refl k), BitVec.setWidth_eq]

/-- A `long` is 64 bits wide, and an `int` 32. -/
theorem toInt_ofInt_long {n : Int} (h : (Value.long n).Fits) : (BitVec.ofInt 64 n).toInt = n := by
  obtain ⟨hlow, hhigh⟩ := h
  exact BitVec.toInt_ofInt_eq_self (by decide) (by simpa using hlow) (by simpa using hhigh)

/-- An `int` that fits survives its 32 bits. -/
theorem toInt_ofInt_int {n : Int} (h : (Value.int n).Fits) : (BitVec.ofInt 32 n).toInt = n := by
  obtain ⟨hlow, hhigh⟩ := h
  exact BitVec.toInt_ofInt_eq_self (by decide) (by simpa using hlow) (by simpa using hhigh)

/-- The low half of the word of an `int`. -/
theorem Value.setWidth_write_int (n : Int) (junk : Word) :
    ((Value.int n).write junk).setWidth 32 = BitVec.ofInt 32 n :=
  setWidth_append_low _ _

/-- The low byte of the word of a `boolean`. -/
theorem Value.setWidth_write_boolean (b : Bool) (junk : Word) :
    ((Value.boolean b).write junk).setWidth 8 = BitVec.ofNat 8 b.toNat :=
  setWidth_append_low _ _

/-- An argument arrives, whatever the rest of its word holds. -/
theorem CType.read_write {t : CType} {v : t.Val} (h : (t.value v).Fits) (junk : Word) :
    t.read ((t.value v).write junk) = some v := by
  cases t with
  | pointer => simpa [read, Value.write, value] using Nat.mod_eq_of_lt h
  | usize =>
      obtain ⟨-, hlt⟩ := h
      simp only [read, Value.write, value, BitVec.ofInt_natCast, BitVec.toNat_ofNat]
      exact congrArg some (Nat.mod_eq_of_lt (by omega))
  | cInt => rw [read, value, Value.setWidth_write_int, toInt_ofInt_int h]
  | bool =>
      rw [read, value, Value.setWidth_write_boolean]
      cases v <;> rfl

/-- A result arrives. -/
theorem CType.layout_read_write {t : CType} {v : t.Val} (h : (t.value v).Fits) (junk : Word) :
    t.layout.read (t.write junk v) = t.value v := by
  cases t with
  | pointer => simpa [write, layout, ValueLayout.read, Value.write, value] using Nat.mod_eq_of_lt h
  | usize =>
      have hint : (BitVec.ofInt 64 (v : Nat)).toInt = (v : Nat) := toInt_ofInt_long h
      simp only [write, layout, ValueLayout.read, Value.write, value, hint]
  | cInt =>
      rw [layout, ValueLayout.read, write, value, Value.setWidth_write_int, toInt_ofInt_int h]
  | bool =>
      rw [layout, ValueLayout.read, write, value, Value.setWidth_write_boolean]
      cases v <;> rfl

/-- **All arguments arrive** if they are the values the parameters stand
for. -/
theorem enter_of_values {ρ : Type} (ts : List CType) (f : Curried ρ ts) (vs : Vals ts)
    (h : ∀ v ∈ values ts vs, v.Fits) (junk : Nat → Word) :
    enter ts f ((values ts vs).mapIdx fun i v => v.write (junk i)) = some (apply ts f vs) := by
  induction ts generalizing junk with
  | nil => rfl
  | cons t ts ih =>
      obtain ⟨v, vs⟩ := vs
      rw [values, List.mapIdx_cons, enter, CType.read_write (h _ (by simp [values])),
        Option.bind_some]
      exact ih (f v) vs (fun u hu => h u (by simp [values, hu])) fun i => junk (i + 1)

end DataFusionPanama
