import SplitterLaunch.Binary64
import SplitterLaunch.Text.Numeral

/-! Decimal text of binary floating-point numbers. `read?` rounds the number that a text denotes once, to
    the nearest word. `shortest` finds the fewest digits that read back as a finite number, and among those
    of that length the digits nearest to it. `twoPlaces` is exact but for the one rounding to hundredths. -/

namespace SplitterLaunch
namespace Binary64

/-! ### Reading -/

/-- A text split into its sign and the rest; without a sign it is positive. -/
def splitSign : List Char → Bool × List Char
  | '-' :: cs => (true, cs)
  | '+' :: cs => (false, cs)
  | cs => (false, cs)

/-- The exponent that ends a number: a letter `e`, at most one sign, and at least one digit. An absent
    exponent is zero. -/
def readExponent? : List Char → Option Int
  | [] => some 0
  | e :: cs =>
    let (negative, digits) := splitSign cs
    if (e == 'e' || e == 'E') && !digits.isEmpty && digits.all Char.isDigit then
      let n : Int := Numeral.value digits
      some (if negative then -n else n)
    else none

/-- Reads digits with at most one point among them, and an exponent. -/
def readDigits? (negative : Bool) (cs : List Char) : Option Binary64 := do
  let whole := cs.takeWhile Char.isDigit
  let rest := cs.dropWhile Char.isDigit
  let (decimals, tail) := match rest with
    | '.' :: ds => (ds.takeWhile Char.isDigit, ds.dropWhile Char.isDigit)
    | _ => ([], rest)
  if whole.isEmpty && decimals.isEmpty then none
  else
    let e ← readExponent? tail
    return ofDecimal negative (Numeral.value (whole ++ decimals)) (e - decimals.length)

/-- Reads a decimal number, an infinity or a NaN, the latter two in letters of either case. -/
def read? (cs : List Char) : Option Binary64 :=
  let (negative, rest) := splitSign cs
  let word := String.ofList (rest.map Char.toLower)
  if word == "inf" || word == "infinity" then some (infinity negative)
  else if word == "nan" then some nan
  else readDigits? negative rest

/-! ### Writing -/

/-- `digits * 10 ^ exponent`. -/
structure Decimal where
  digits : Nat
  exponent : Int
deriving DecidableEq, Repr

/-- The exponent of the greatest power of ten that is at most a positive number. -/
def log10 (v : Rat) : Int :=
  if 1 ≤ v then (Numeral.decimal v.floor.toNat).length - 1
  else -(Numeral.decimal ((1 / v).ceil.toNat - 1)).length

/-- The least number that reads as the same word, or the middle of the gap below it. -/
def lowerEnd (x : Binary64) : Rat :=
  if x.fraction = 0 ∧ 1 < x.field then scaled (4 * x.significand - 1) 2 (x.exponent - 2)
  else scaled (4 * x.significand - 2) 2 (x.exponent - 2)

/-- The greatest number that reads as the same word, or the middle of the gap above it. -/
def upperEnd (x : Binary64) : Rat := scaled (4 * x.significand + 2) 2 (x.exponent - 2)

/-- Whether a number reads as this word. The ends of the interval do when the significand is even. -/
def readsBack (x : Binary64) (v : Rat) : Bool :=
  if x.significand % 2 = 0 then x.lowerEnd ≤ v && v ≤ x.upperEnd else x.lowerEnd < v && v < x.upperEnd

/-- The decimal of `count` digits that is nearest to a positive finite number among those that read back;
    of two equally near ones, that with an even last digit. -/
def nearestDecimal? (x : Binary64) (count : Nat) : Option Decimal :=
  let v := x.magnitude
  let e := log10 v - count + 1
  let unit := scaled 1 10 e
  let below := (v / unit).floor.toNat
  let low := (below : Rat) * unit
  let high := ((below + 1 : Nat) : Rat) * unit
  match x.readsBack low, x.readsBack high with
  | false, false => none
  | true, false => some ⟨below, e⟩
  | false, true => some ⟨below + 1, e⟩
  | true, true =>
    if v - low < high - v ∨ (v - low = high - v ∧ below % 2 = 0) then some ⟨below, e⟩
    else some ⟨below + 1, e⟩

/-- The fewest digits that read back as a positive finite number; seventeen always do. -/
def shortest (x : Binary64) : Decimal :=
  ((List.range 17).findSome? fun i => x.nearestDecimal? (i + 1)).getD ⟨0, 0⟩

/-- The number rounded to hundredths, a half going to the even digit, with two digits after the point. -/
def twoPlaces (x : Binary64) : String :=
  let sign := if x.isNegative then "-" else ""
  if x.isNaN then "NaN"
  else if x.isInfinite then sign ++ "inf"
  else
    let hundredths := x.magnitude * 100
    let n := divHalfEven hundredths.num.natAbs hundredths.den
    sign ++ String.ofList (Numeral.decimal (n / 100) ++ '.' :: Numeral.padded 2 (n % 100))

end Binary64
end SplitterLaunch
