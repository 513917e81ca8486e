import SplitterLaunch.Chain
import SplitterLaunch.Fee.Market

/-! Sending a transaction. What is not settled is asked for first: the sender's next number, the fees, and
    the gas. Nothing that is settled is changed, but for a priority fee above the maximum fee, or on a chain
    without a fee market. Then the transaction is signed and submitted once. All requests share one time limit. -/

namespace SplitterLaunch

/-- An account that signs for a chain. -/
structure Signer where
  key : Key
  chainId : UInt64
deriving DecidableEq, Repr

def Signer.address (s : Signer) : Address := s.key.address

namespace Pricing

/-- A fee market's pricing, completed by estimated fees. A maximum fee that is set stays, and a priority fee
    that is set may not be above the maximum. -/
def complete (maxFee priorityFee : Option Quantity) (estimated : Fees) : Pricing :=
  let most := maxFee.getD estimated.maxFee
  .feeMarket (some most) (some ((priorityFee.map fun fee => fee.min most).getD estimated.priorityFee))

end Pricing

/-- Requests to a node that share one time limit, in milliseconds. -/
structure Session where
  connection : Connection
  timeout : Nat
deriving DecidableEq, Repr

namespace Session
variable {α : Type}

def giveUp (s : Session) : Run α := Run.fail (.timeout "deploy" (s.timeout / 1000))

/-- Sends a request. A reply that does not come uses up the time. -/
def attempt (s : Session) (request : Request) (decode : Json.Source → Option α) : Run (Except RpcFault α) := do
  match ← s.connection.request request decode with
  | .ok x => return .ok x
  | .error (.fault fault) => return .error fault
  | .error .silence => s.giveUp

/-- Ends because the transaction could not be sent. -/
def refuse (fault : RpcFault) : Run α := Run.fail (.deployment (.sending fault))

/-- Sends a request that must be answered for the transaction to be sent. -/
def call (s : Session) (request : Request) (decode : Json.Source → Option α) : Run α := do
  match ← s.attempt request decode with
  | .ok x => return x
  | .error fault => refuse fault

def decodeRewards (source : Json.Source) : Option (List (List Quantity)) :=
  (Rpc.json? Rpc.historyShape source).bind Rpc.rewards?

def decodeHash (source : Json.Source) : Option Hash := (Rpc.json? .plain source).bind (Json.asFixedBytes? 32)

/-- The rewards of recent blocks. A node may know only one of two ways to ask for them; if it knows neither,
    its first answer is reported. -/
def rewards (s : Session) : Run (List (List Quantity)) := do
  match ← s.attempt (.feeHistory true) decodeRewards with
  | .ok rewards => return rewards
  | .error fault =>
    match ← s.attempt (.feeHistory false) decodeRewards with
    | .ok rewards => return rewards
    | .error _ => refuse fault

/-- The base fee of the latest block, which must have one. -/
def baseFee (s : Session) : Run Quantity := do
  match ← s.call .latestBlock Connection.decodeBlock with
  | none => refuse (.other "Latest block not found")
  | some block =>
    match block.baseFee with
    | none => refuse (.other "EIP-1559 not activated")
    | some fee => return fee

/-- The fees that the state of the chain suggests. -/
def estimatedFees (s : Session) : Run Fees := do
  let baseFee ← s.baseFee
  let rewards ← s.rewards
  match FeeMarket.fees? baseFee rewards with
  | some fees => return fees
  | none => Run.crash

def settlePricing (s : Session) : Pricing → Run Pricing
  | .legacy (some price) => return .legacy (some price)
  | .legacy none => do return .legacy (some (← s.call .gasPrice Connection.decodeQuantity))
  | .accessList (some price) => return .accessList (some price)
  | .accessList none => do return .accessList (some (← s.call .gasPrice Connection.decodeQuantity))
  | .feeMarket (some maxFee) (some priorityFee) => return .feeMarket (some maxFee) (some priorityFee)
  | .feeMarket maxFee priorityFee => do return Pricing.complete maxFee priorityFee (← s.estimatedFees)

/-- The transaction with all fields settled, for a signer. -/
def settle (s : Session) (signer : Signer) (tx : Transaction) : Run Transaction := do
  let chainId := tx.chainId.getD signer.chainId
  let tx := { tx with
    sender := some signer.address, chainId := some chainId, pricing := tx.pricing.onChain chainId }
  let nonce ← s.call (.transactionCount signer.address) Connection.decodeQuantity
  let pricing ← s.settlePricing tx.pricing
  let tx := { tx with nonce := some nonce, pricing := pricing }
  match tx.gas with
  | some _ => return tx
  | none => do return { tx with gas := some (← s.call (.estimateGas tx) Connection.decodeQuantity) }

/-- Settles, signs and submits a transaction, and gives its hash. -/
def send (s : Session) (signer : Signer) (tx : Transaction) : Run Hash := do
  let tx ← s.settle signer tx
  s.call (.broadcast tx signer.address) decodeHash

end Session
end SplitterLaunch
