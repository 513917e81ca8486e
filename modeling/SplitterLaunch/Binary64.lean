/-! Binary floating-point numbers of 64 bits, as words. A finite word stands for the rational number
    `± significand * 2 ^ exponent`, and `nearest` is the word whose number is closest to a given ratio, with
    ties going to an even significand. Products and quotients are those of the rational numbers, rounded
    once. -/

namespace SplitterLaunch

/-- A binary64 word: a sign bit, eleven bits of biased exponent and 52 bits of fraction. -/
structure Binary64 where
  bits : UInt64
deriving DecidableEq, Repr

namespace Binary64

def isNegative (x : Binary64) : Bool := Nat.pow 2 63 ≤ x.bits.toNat

def field (x : Binary64) : Nat := x.bits.toNat / Nat.pow 2 52 % Nat.pow 2 11

/-- The bits after the leading one of the significand. -/
def fraction (x : Binary64) : Nat := x.bits.toNat % Nat.pow 2 52

def isFinite (x : Binary64) : Bool := x.field != 2047

def isNaN (x : Binary64) : Bool := x.field == 2047 && x.fraction != 0

def isInfinite (x : Binary64) : Bool := x.field == 2047 && x.fraction == 0

/-- The whole number that a finite word scales: subnormal words lack the leading one. -/
def significand (x : Binary64) : Nat := if x.field = 0 then x.fraction else Nat.pow 2 52 + x.fraction

/-- The power of two by which a finite word scales its significand. -/
def exponent (x : Binary64) : Int := (max x.field 1 : Nat) - 1075

def isZero (x : Binary64) : Bool := x.field == 0 && x.fraction == 0

/-- Whether the number is above zero; no NaN is. -/
def isPositive (x : Binary64) : Bool := !x.isNegative && !x.isZero && !x.isNaN

/-- Whether the number is zero, of either sign, or above it; no NaN is. -/
def isNonnegative (x : Binary64) : Bool := x.isZero || x.isPositive

/-- `n * b ^ e`. -/
def scaled (n b : Nat) (e : Int) : Rat :=
  if 0 ≤ e then ((n * Nat.pow b e.toNat : Nat) : Rat) else mkRat n (Nat.pow b (-e).toNat)

def magnitude (x : Binary64) : Rat := scaled x.significand 2 x.exponent

/-- The word with the given sign and the given bits below it. -/
def ofParts (negative : Bool) (bits : Nat) : Binary64 := ⟨UInt64.ofNat ((if negative then Nat.pow 2 63 else 0) + bits)⟩

/-- The bits of positive infinity, and the first that belong to no finite number. -/
def infinityBits : Nat := 2047 * Nat.pow 2 52

def infinity (negative : Bool) : Binary64 := ofParts negative infinityBits

def nan : Binary64 := ofParts false (infinityBits + Nat.pow 2 51)

/-- The whole number closest to `n / d`; of two equally close ones, the even one. -/
def divHalfEven (n d : Nat) : Nat :=
  let q := n / d
  let twice := 2 * (n % d)
  if d < twice ∨ (twice = d ∧ q % 2 = 1) then q + 1 else q

/-- The exponent of the greatest power of two that is at most `n / d`, for positive `n` and `d`. -/
def logRatio (n d : Nat) : Int :=
  let e : Int := (n.log2 : Int) - d.log2
  if d * Nat.pow 2 e.toNat ≤ n * Nat.pow 2 (-e).toNat then e else e - 1

/-- The bits of the word closest to `n / d`, which is infinity from the middle of its last gap on. A carry
    out of the significand leaves the right bits because the exponent stands just above it. -/
def nearestBits (n d : Nat) : Nat :=
  if n = 0 then 0
  else
    let e : Int := max (logRatio n d - 52) (-1074)
    let m := divHalfEven (n * Nat.pow 2 (-e).toNat) (d * Nat.pow 2 e.toNat)
    min ((e + 1074).toNat * Nat.pow 2 52 + m) infinityBits

/-- The word closest to a rational number's absolute value, with the given sign. -/
def nearest (negative : Bool) (x : Rat) : Binary64 := ofParts negative (nearestBits x.num.natAbs x.den)

def ofNat (n : Nat) : Binary64 := ofParts false (nearestBits n 1)

/-- The word closest to `± digits * 10 ^ e`. Numbers far outside the range are recognised by their digit
    count alone. -/
def ofDecimal (negative : Bool) (digits : Nat) (e : Int) : Binary64 :=
  let width : Int := (Nat.toDigits 10 digits).length
  if digits = 0 then ofParts negative 0
  else if 310 < width + e then infinity negative
  else if width + e < -330 then ofParts negative 0
  else nearest negative (scaled digits 10 e)

def neg (x : Binary64) : Binary64 := ofParts (!x.isNegative) (x.bits.toNat % Nat.pow 2 63)

/-- The product, rounded once. -/
def mul (x y : Binary64) : Binary64 :=
  let negative := x.isNegative != y.isNegative
  if x.isNaN || y.isNaN then nan
  else if x.isInfinite || y.isInfinite then
    if x.isZero || y.isZero then nan else infinity negative
  else nearest negative (x.magnitude * y.magnitude)

/-- The quotient, rounded once. -/
def div (x y : Binary64) : Binary64 :=
  let negative := x.isNegative != y.isNegative
  if x.isNaN || y.isNaN then nan
  else if x.isInfinite then if y.isInfinite then nan else infinity negative
  else if y.isInfinite then ofParts negative 0
  else if y.isZero then if x.isZero then nan else infinity negative
  else nearest negative (x.magnitude / y.magnitude)

/-- The closest whole number, a half going away from zero, kept within 64 signed bits; zero for a NaN. -/
def roundToInt (x : Binary64) : Int :=
  if x.isNaN then 0
  else
    let limit : Nat := if x.isNegative then Nat.pow 2 63 else Nat.pow 2 63 - 1
    let n := if x.isInfinite then limit else min (x.magnitude + mkRat 1 2).floor.toNat limit
    if x.isNegative then -(n : Int) else n

end Binary64
end SplitterLaunch
