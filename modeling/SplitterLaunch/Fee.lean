import SplitterLaunch.Quantity

/-! Fees for a unit of gas. A node quotes what it knows, a user may override it, and `Fees.resolve?` settles
    on the fee that a transaction pays at most and the priority fee within it. -/

namespace SplitterLaunch

/-- `10 ^ 9` of the smallest unit. -/
def oneGwei : Quantity := ⟨1000000000, by decide⟩

/-- What a node tells about fees. Only chains with a fee market have a base fee. -/
structure FeeQuote where
  baseFee : Option Quantity
  priorityFee : Option Quantity
  maxFee : Option Quantity
  gasPrice : Option Quantity
deriving DecidableEq, Repr

/-- The fees that the user sets. -/
structure FeeOverrides where
  maxFee : Option Quantity
  priorityFee : Option Quantity
deriving DecidableEq, Repr

/-- The fees that a cost is computed with. -/
structure Fees where
  maxFee : Quantity
  priorityFee : Quantity
deriving DecidableEq, Repr

namespace FeeQuote

def none : FeeQuote := ⟨.none, .none, .none, .none⟩

/-- The quote of a node with this base fee, gas price and suggested priority fee. With a base fee, the
    suggested maximum leaves room for it to double, and for the priority fee or one gwei on top. -/
def ofNode (baseFee gasPrice priorityFee : Option Quantity) : FeeQuote where
  baseFee := baseFee
  priorityFee := priorityFee
  maxFee := baseFee.map fun base => .saturate (2 * base.toNat + (priorityFee.getD oneGwei).toNat)
  gasPrice := gasPrice

end FeeQuote

namespace FeeOverrides

def none : FeeOverrides := ⟨.none, .none⟩

def isEmpty (o : FeeOverrides) : Bool := o.maxFee.isNone && o.priorityFee.isNone

end FeeOverrides

namespace Fees

/-- The maximum is the override, else the node's suggestion, else its gas price; the priority fee is the
    override, else the node's suggestion, else one gwei. There are no fees without a maximum. -/
def resolve? (quote : FeeQuote) (overrides : FeeOverrides) : Option Fees :=
  (overrides.maxFee <|> quote.maxFee <|> quote.gasPrice).map fun maxFee =>
    ⟨maxFee, (overrides.priorityFee <|> quote.priorityFee).getD oneGwei⟩

end Fees
end SplitterLaunch
