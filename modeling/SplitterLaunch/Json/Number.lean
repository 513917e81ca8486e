import SplitterLaunch.Binary64.Text
import SplitterLaunch.Json

/-! What a written number denotes. Integers that fit a word of 64 bits are exact; all others become binary
    floating-point numbers, by taking up as many digits as fit a word and scaling by a power of ten. That
    scaling rounds on its own, so the result need not be the number nearest to the text (`exactly` gives the
    number that is written). A number too large to be finite denotes nothing. -/

namespace SplitterLaunch
namespace Json
namespace Numeral

/-- The digits after the point; none if there is no point. -/
def decimals (n : Numeral) : List Char := n.fraction.getD []

def exactly (n : Numeral) : Rat :=
  let digits := SplitterLaunch.Numeral.value (n.whole ++ n.decimals)
  let e : Int := match n.exponent with
    | none => 0
    | some (negative, ds) =>
      let k : Int := SplitterLaunch.Numeral.value ds
      if negative then -k else k
  let v := Binary64.scaled digits 10 (e - n.decimals.length)
  if n.negative then -v else v

/-- Takes up digits as long as the number fits a word: the number, and how many digits it took up. -/
def takeUp (acc : Nat) : List Char → Nat × Nat
  | [] => (acc, 0)
  | d :: ds =>
    let next := acc * 10 + SplitterLaunch.Numeral.digitValue d
    if next < UInt64.size then
      let (number, taken) := takeUp next ds
      (number, taken + 1)
    else (acc, 0)

/-- A power of ten, rounded to the nearest word. -/
def powerOfTen (e : Nat) : Binary64 := Binary64.ofDecimal false 1 e

/-- A floating-point number times a power of ten, if that is finite. Powers beyond the greatest are applied
    in two steps; after both of them nothing but zero is left. -/
def scale? (x : Binary64) (e : Int) : Option Binary64 :=
  if x.isZero then some x
  else if 308 < e then none
  else if 0 ≤ e then
    let y := x.mul (powerOfTen e.toNat)
    if y.isInfinite then none else some y
  else if -308 ≤ e then some (x.div (powerOfTen (-e).toNat))
  else
    let y := x.div (powerOfTen 308)
    if -616 ≤ e then some (y.div (powerOfTen (-e - 308).toNat)) else some (y.div (powerOfTen 308))

/-- The floating-point number that a numeral denotes. The digits of the whole part that are not taken up
    count for the power of ten, those of the fraction are dropped. An exponent beyond 31 bits makes zero, or
    a number that is too large. -/
def float? (n : Numeral) : Option Binary64 :=
  let (head, taken) := takeUp 0 n.whole
  let (digits, decimals) := takeUp head n.decimals
  let e : Int := ((n.whole.length - taken : Nat) : Int) - decimals
  let magnitude : Option Binary64 := match n.exponent with
    | none => scale? (.ofNat digits) e
    | some (negative, ds) =>
      let k := SplitterLaunch.Numeral.value ds
      if k < 2147483648 then scale? (.ofNat digits) (if negative then e - k else e + k)
      else if negative || digits == 0 then some (.ofNat 0)
      else none
  magnitude.map fun x => if n.negative then x.neg else x

/-- The integer that a numeral without a point and an exponent spells, if it is held exactly. A zero with a
    minus sign is not. -/
def integer? (n : Numeral) : Option Integer :=
  if n.fraction.isSome || n.exponent.isSome then none
  else
    let v : Int := SplitterLaunch.Numeral.value n.whole
    if n.negative then
      if h : 0 < v ∧ v ≤ 9223372036854775808 then some ⟨-v, by omega⟩ else none
    else if h : 0 ≤ v ∧ v < 18446744073709551616 then some ⟨v, by omega⟩
    else none

def number? (n : Numeral) : Option Number :=
  match n.integer? with
  | some i => some (.integer i)
  | none => n.float?.map .float

end Numeral
end Json
end SplitterLaunch
