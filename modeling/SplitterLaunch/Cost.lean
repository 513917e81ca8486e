import SplitterLaunch.Fee
import SplitterLaunch.Fiat
import SplitterLaunch.Quantity.Units

/-! What a deployment costs. The upper bound pays the maximum fee for all gas. The lower bound pays base fee
    and priority fee, yet never more than the maximum fee, so it is at most the upper bound; where the chain
    has no base fee both are equal. -/

namespace SplitterLaunch

/-- The products and sums that may not be a quantity. -/
inductive CostPart where
  | upperBound
  | effectivePrice
  | lowerBound
deriving DecidableEq, Repr

def CostPart.text : CostPart → String
  | .upperBound => "upper bound"
  | .effectivePrice => "effective gas price"
  | .lowerBound => "lower bound"

/-- Why there is no estimate. -/
inductive CostFault where
  | noFees
  | overflow (part : CostPart)
  | units (fault : Units.Fault)
deriving DecidableEq, Repr

def CostFault.message : CostFault → String
  | .noFees =>
    "No fee data available: provider returned neither maxFeePerGas nor gasPrice and MAX_FEE_GWEI is not set"
  | .overflow part => "Arithmetic overflow while computing " ++ part.text
  | .units fault => fault.message

/-- What a deployment costs on one chain, and what that was computed from. -/
structure CostEstimate where
  chainId : UInt64
  token : NativeToken
  gas : Quantity
  quote : FeeQuote
  overrides : FeeOverrides
  fees : Fees
  cost : Bounds Quantity
  costNative : Bounds String
  fiat : Option (Bounds FiatAmount)
deriving DecidableEq, Repr

namespace CostEstimate

/-- A quantity that must exist, or the part of the computation that overflowed. -/
def required (part : CostPart) : Option Quantity → Except CostFault Quantity
  | some q => .ok q
  | none => .error (.overflow part)

/-- The lower bound, given the upper one. -/
def lowerBound (gas : Quantity) (fees : Fees) (upper : Quantity) : Option Quantity → Except CostFault Quantity
  | none => .ok upper
  | some baseFee => do
    let effective ← required .effectivePrice (baseFee.add? fees.priorityFee)
    required .lowerBound (gas.mul? (effective.min fees.maxFee))

def converted {α : Type} (cost : Bounds Quantity) (f : Quantity → Except Units.Fault α) :
    Except CostFault (Bounds α) :=
  (cost.tryMap f).mapError .units

/-- A cost in dollars and rupiah, if there are rates. -/
def inFiat (cost : Bounds Quantity) : Option FiatRates → Except CostFault (Option (Bounds FiatAmount))
  | none => .ok none
  | some rates => (converted cost fun amount => FiatAmount.ofQuantity amount rates).map some

/-- The estimate for an amount of gas, or why there is none. -/
def compute (chainId : UInt64) (gas : Quantity) (quote : FeeQuote) (overrides : FeeOverrides)
    (fiat : FiatSettings) : Except CostFault CostEstimate :=
  match Fees.resolve? quote overrides with
  | none => .error .noFees
  | some fees => do
    let upper ← required .upperBound (gas.mul? fees.maxFee)
    let lower ← lowerBound gas fees upper quote.baseFee
    let token := NativeToken.ofChain chainId
    let cost := Bounds.between lower upper
    let costNative ← converted cost (Quantity.inUnitNamed "ether")
    let inFiat ← inFiat cost (fiat.ratesFor? token)
    return {
      chainId := chainId
      token := token
      gas := gas
      quote := quote
      overrides := overrides
      fees := fees
      cost := cost
      costNative := costNative
      fiat := inFiat }

end CostEstimate
end SplitterLaunch
