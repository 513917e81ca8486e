import SplitterLaunch.Fee
import SplitterLaunch.FixedBytes

/-! Transactions, before all their fields are settled. A transaction of the older kinds has one gas price;
    one for fee markets has a maximum and a priority fee. -/

namespace SplitterLaunch

/-- How a transaction pays for gas. -/
inductive Pricing where
  | legacy (gasPrice : Option Quantity)
  | accessList (gasPrice : Option Quantity)
  | feeMarket (maxFee priorityFee : Option Quantity)
deriving DecidableEq, Repr

namespace Pricing

/-- The pricing with the fees that the user sets. A single gas price takes the maximum fee. -/
def override (overrides : FeeOverrides) : Pricing → Pricing
  | .legacy gasPrice => .legacy (overrides.maxFee <|> gasPrice)
  | .accessList gasPrice => .accessList (overrides.maxFee <|> gasPrice)
  | .feeMarket maxFee priorityFee =>
    .feeMarket (overrides.maxFee <|> maxFee) (overrides.priorityFee <|> priorityFee)

def cap : Pricing → Option Quantity
  | .legacy gasPrice => gasPrice
  | .accessList gasPrice => gasPrice
  | .feeMarket maxFee _ => maxFee

/-- The chains that are known to have no fee market. -/
def chainsWithoutMarket : List UInt64 :=
  [20, 30, 56, 69, 97, 250, 280, 288, 324, 4002, 26863, 42220, 42261, 42262, 44787, 62320, 421611]

/-- The pricing that a chain takes. Where there is no fee market, the maximum fee is the gas price. -/
def onChain (chainId : UInt64) : Pricing → Pricing
  | .feeMarket maxFee priorityFee =>
    if chainId ∈ chainsWithoutMarket then .legacy maxFee else .feeMarket maxFee priorityFee
  | pricing => pricing

theorem cap_onChain (chainId : UInt64) (pricing : Pricing) : (pricing.onChain chainId).cap = pricing.cap := by
  unfold onChain
  split
  · split <;> rfl
  · rfl

end Pricing

/-- An account that a transaction announces to use, with the places of its storage. -/
structure AccessEntry where
  account : Address
  places : List Hash
deriving DecidableEq, Repr

/-- A transaction with the fields that are settled. An access list is sent with the newer kinds alone. -/
structure Transaction where
  sender : Option Address
  recipient : Option Address
  gas : Option Quantity
  pricing : Pricing
  value : Option Quantity
  data : Option (List UInt8)
  nonce : Option Quantity
  chainId : Option UInt64
  accessList : List AccessEntry
deriving DecidableEq, Repr

namespace Transaction

def blank (pricing : Pricing) : Transaction where
  sender := none
  recipient := none
  gas := none
  pricing := pricing
  value := none
  data := none
  nonce := none
  chainId := none
  accessList := []

/-- The transaction with the gas limit and the fees that the user sets. -/
def override (gasLimit : Option Quantity) (overrides : FeeOverrides) (tx : Transaction) : Transaction :=
  { tx with gas := gasLimit <|> tx.gas, pricing := tx.pricing.override overrides }

end Transaction
end SplitterLaunch
