import SplitterLaunch.Cost
import SplitterLaunch.Json.Text

/-! An estimate as JSON. Quantities are decimal texts, so that readers lose no digit of them. -/

namespace SplitterLaunch

def Quantity.toJson (q : Quantity) : Json := .string q.decimal

namespace CostEstimate

/-- The members of an estimate's JSON, in the order in which they are written. -/
def toJson (e : CostEstimate) : Json :=
  .object [
    ("chainId", Json.ofUInt64 e.chainId),
    ("nativeSymbol", .string e.token.symbol),
    ("gasUnits", e.gas.toJson),
    ("baseFeePerGas", Json.ofOption Quantity.toJson e.quote.baseFee),
    ("maxFeePerGas", e.fees.maxFee.toJson),
    ("priorityFeePerGas", e.fees.priorityFee.toJson),
    ("costWei", e.cost.toJson Quantity.toJson),
    ("costNative", e.costNative.toJson .string),
    ("upperNative", .string e.costNative.upper),
    ("lowerNative", .string e.costNative.lower),
    ("fiat", Json.ofOption (Bounds.toJson FiatAmount.toJson) e.fiat)]

def summary (e : CostEstimate) : String := e.toJson.pretty

end CostEstimate
end SplitterLaunch
