import SplitterLaunch.Text.Numeral

/-! Quantities: the unsigned 256-bit numbers in which gas, fees and amounts are counted. They are natural
    numbers below `2 ^ 256`, and every operation that could leave that range says what happens there:
    `add?` and `mul?` have no result, `saturate` stops at the largest quantity, `wrap` starts again at zero. -/

namespace SplitterLaunch

/-- The first number that is no quantity, `2 ^ 256`. -/
def Quantity.bound : Nat := 115792089237316195423570985008687907853269984665640564039457584007913129639936

/-- A natural number below `2 ^ 256`. -/
structure Quantity where
  toNat : Nat
  toNat_lt : toNat < Quantity.bound
deriving DecidableEq, Repr

namespace Quantity

theorem ext {a b : Quantity} (h : a.toNat = b.toNat) : a = b := by
  cases a; cases b; simp_all

/-- The quantity of a number, if it is one. -/
def ofNat? (n : Nat) : Option Quantity := if h : n < bound then some ⟨n, h⟩ else none

/-- The quantity of a number, or the largest one. -/
def saturate (n : Nat) : Quantity := ⟨if n < bound then n else bound - 1, by split <;> (unfold bound at *; omega)⟩

/-- The quantity that differs from a number by a multiple of `2 ^ 256`. -/
def wrap (n : Int) : Quantity := ⟨(n % bound).toNat, by unfold bound; omega⟩

def ofUInt64 (n : UInt64) : Quantity := ⟨n.toNat, Nat.lt_of_lt_of_le n.toNat_lt (by decide)⟩

def zero : Quantity := ⟨0, by decide⟩

def add? (a b : Quantity) : Option Quantity := ofNat? (a.toNat + b.toNat)

def mul? (a b : Quantity) : Option Quantity := ofNat? (a.toNat * b.toNat)

def min (a b : Quantity) : Quantity := if a.toNat ≤ b.toNat then a else b

theorem ofNat?_eq_some_iff {n : Nat} {q : Quantity} : ofNat? n = some q ↔ q.toNat = n := by
  unfold ofNat?
  split
  · simp only [Option.some.injEq]
    exact ⟨fun h => h ▸ rfl, fun h => ext h.symm⟩
  · have := q.toNat_lt
    simp only [reduceCtorEq, false_iff]
    omega

theorem ofNat?_eq_none_iff {n : Nat} : ofNat? n = none ↔ bound ≤ n := by
  unfold ofNat?
  split <;> simp only [reduceCtorEq, false_iff, true_iff] <;> omega

theorem toNat_saturate (n : Nat) : (saturate n).toNat = if n < bound then n else bound - 1 := rfl

theorem toNat_min (a b : Quantity) : (min a b).toNat = Min.min a.toNat b.toNat := by
  unfold min
  split <;> omega

def decimal (q : Quantity) : String := String.ofList (Numeral.decimal q.toNat)

/-- Reads a row of digits; no digit at all reads as zero. -/
def read (cs : List Char) : Except Numeral.Fault Quantity :=
  match Numeral.scan bound cs with
  | .ok n => if h : n < bound then .ok ⟨n, h⟩ else .error .tooLarge
  | .error fault => .error fault

/-- How a fault in the numeral of a quantity is worded. -/
def faultMessage : Numeral.Fault → String
  | .tooLarge => "the number is too large for the type"
  | _ => "a character is not in the range 0-9"

end Quantity
end SplitterLaunch
