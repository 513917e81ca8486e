import SplitterLaunch.Binary64.Text
import SplitterLaunch.Bounds
import SplitterLaunch.Network
import SplitterLaunch.Quantity.Units

/-! Costs in US dollars and rupiah. Amounts are floating-point numbers and are rounded only where they are
    shown: dollars to cents, rupiah to whole ones. -/

namespace SplitterLaunch

/-- The price of a chain's token in dollars, and of a dollar in rupiah. -/
structure FiatRates where
  usdPerNative : Binary64
  usdToIdr : Binary64
deriving DecidableEq, Repr

/-- The prices that are set, by the variables they come from, and the price of a dollar in rupiah. -/
structure FiatSettings where
  prices : List (String × Binary64)
  usdToIdr : Binary64
deriving DecidableEq, Repr

namespace FiatSettings

/-- How many rupiah a dollar costs unless it is set. -/
def defaultUsdToIdr : Binary64 := .ofNat 17000

/-- The rates for a token, if a price above zero is set for it. -/
def ratesFor? (fiat : FiatSettings) (token : NativeToken) : Option FiatRates :=
  (fiat.prices.lookup token.priceVariable).bind fun price =>
    if price.isPositive then some ⟨price, fiat.usdToIdr⟩ else none

end FiatSettings

/-- An amount in a chain's display unit as a floating-point number, which is read from its text. -/
def Quantity.displayed (q : Quantity) : Except Units.Fault Binary64 := do
  let e ← Units.exponent "ether"
  match Binary64.read? (q.inFull e) with
  | some x => return x
  | none => .error .notNumber

/-- An amount in dollars and in rupiah. -/
structure FiatAmount where
  usd : Binary64
  idr : Binary64
deriving DecidableEq, Repr

namespace FiatAmount

def ofQuantity (amount : Quantity) (rates : FiatRates) : Except Units.Fault FiatAmount := do
  let native ← amount.displayed
  let usd := native.mul rates.usdPerNative
  return ⟨usd, usd.mul rates.usdToIdr⟩

/-- A digit is followed by a point where a positive multiple of three digits is left. -/
def groupDigits : List Char → List Char
  | [] => []
  | d :: ds => if !ds.isEmpty && ds.length % 3 == 0 then d :: '.' :: groupDigits ds else d :: groupDigits ds

/-- A whole number with its digits in groups of three, divided by points. -/
def grouped (n : Int) : String :=
  let digits := groupDigits (Numeral.decimal n.natAbs)
  String.ofList (if n < 0 then '-' :: digits else digits)

def usdText (a : FiatAmount) : String := "$" ++ a.usd.twoPlaces

def idrText (a : FiatAmount) : String := "Rp " ++ grouped a.idr.roundToInt

def toJson (a : FiatAmount) : Json := .object [("usd", Json.ofBinary64 a.usd), ("idr", Json.ofBinary64 a.idr)]

end FiatAmount
end SplitterLaunch
