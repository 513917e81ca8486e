import SplitterLaunch.Quantity

/-! Amounts in a unit. A unit of exponent `e` is worth `10 ^ e` of the smallest unit, and the text of an
    amount in it has one point, at least one digit on each side, and no zero at the end beyond the first
    digit after the point. -/

namespace SplitterLaunch
namespace Units

/-- The lower case of the characters that a unit's name may hold. Besides the capital letters `A` to `Z`
    that is the Kelvin sign, whose lower case is `k`. -/
def lowerCase (c : Char) : Char := if c = '\u212a' then 'k' else c.toLower

/-- The exponents of the units, by name in lower case. -/
def exponents : List (String × Nat) := [
  ("ether", 18), ("eth", 18),
  ("pwei", 15), ("milli", 15), ("milliether", 15), ("finney", 15),
  ("twei", 12), ("micro", 12), ("microether", 12), ("szabo", 12),
  ("gwei", 9), ("nano", 9), ("nanoether", 9), ("shannon", 9),
  ("mwei", 6), ("pico", 6), ("picoether", 6), ("lovelace", 6),
  ("kwei", 3), ("femto", 3), ("femtoether", 3), ("babbage", 3),
  ("wei", 0)]

/-- The exponent of the unit with this name, in letters of either case. -/
def exponent? (name : String) : Option Nat :=
  exponents.lookup (String.ofList (name.toList.map lowerCase))

/-- Why an amount cannot be converted. -/
inductive Fault where
  /-- No unit has this name. -/
  | unknown (name : String)
  /-- The text of the amount is no number. -/
  | notNumber
deriving DecidableEq, Repr

def Fault.message : Fault → String
  | .unknown name => "Unit conversion failed: Unknown units: " ++ name
  | .notNumber => "Unit conversion failed: invalid float literal"

def exponent (name : String) : Except Fault Nat :=
  match exponent? name with
  | some e => .ok e
  | none => .error (.unknown name)

/-- The digits without the zeros they end in, keeping one digit. -/
def trimZeros : List Char → List Char
  | [] => []
  | d :: ds =>
    let rest := (ds.reverse.dropWhile (· == '0')).reverse
    d :: rest

end Units

namespace Quantity

/-- The digits after the point of an amount in the unit of exponent `e`. -/
def fractionDigits (e : Nat) (q : Quantity) : List Char :=
  Units.trimZeros (Numeral.padded e (q.toNat % Nat.pow 10 e))

/-- The text of an amount in the unit of exponent `e`. -/
def inUnit (e : Nat) (q : Quantity) : String :=
  String.ofList (Numeral.decimal (q.toNat / Nat.pow 10 e) ++ '.' :: fractionDigits e q)

/-- The text of an amount in a chain's display unit, of exponent 18. -/
def native (q : Quantity) : String := q.inUnit 18

/-- The text of a fee in gwei, of exponent 9. -/
def gwei (q : Quantity) : String := q.inUnit 9

def inUnitNamed (name : String) (q : Quantity) : Except Units.Fault String := do
  let e ← Units.exponent name
  return q.inUnit e

/-- The text of an amount in the unit of exponent `e`, with all of its decimals. -/
def inFull (e : Nat) (q : Quantity) : List Char :=
  Numeral.decimal (q.toNat / Nat.pow 10 e) ++ '.' :: Numeral.padded e (q.toNat % Nat.pow 10 e)

end Quantity
end SplitterLaunch
