import SplitterLaunch.Chain

/-! Estimating a deployment on a chain. The chain is asked for its id, then for its fees and only then, if
    the fees suffice and no gas limit is set, for the gas that the deployment would use. -/

namespace SplitterLaunch

/-- What an estimate depends on besides chain and transaction. -/
structure EstimateRequest where
  gasLimit : Option Quantity
  overrides : FeeOverrides
  fiat : FiatSettings
deriving DecidableEq, Repr

namespace EstimateRequest
variable {m : Type → Type} [Monad m]

/-- The failure of an estimate whose gas could not be asked for. -/
def gasFailure (failure : Failure) : Failure :=
  if failure.isTimeout then failure else .noEstimate failure.message

/-- The gas that a transaction is to use: the limit, else what the chain says. -/
def gas (r : EstimateRequest) (chain : Chain (ExceptT (Stop Failure) m)) (tx : Transaction) :
    ExceptT (Stop Failure) m Quantity :=
  match r.gasLimit with
  | some limit => pure limit
  | none => ExceptT.adapt (Stop.map gasFailure) (chain.estimateGas tx)

/-- Goes on with a result, or ends with its fault. -/
def settle {α : Type} : Except CostFault α → ExceptT (Stop Failure) m α
  | .ok x => pure x
  | .error fault => throw (.failed (.cost fault))

/-- The estimate of a deployment that has its sender. -/
def run (r : EstimateRequest) (chain : Chain (ExceptT (Stop Failure) m)) (tx : Transaction) :
    ExceptT (Stop Failure) m CostEstimate := do
  let chainId ← chain.chainId
  let quote ← chain.feeQuote
  match Fees.resolve? quote r.overrides with
  | none => settle (.error .noFees)
  | some _ =>
    let gas ← r.gas chain tx
    settle (CostEstimate.compute chainId gas quote r.overrides r.fiat)

end EstimateRequest
end SplitterLaunch
