import SplitterLaunch.Sending

/-! Deploying the contract: its transaction is sent, and looked up until it is in a block, has a receipt and
    has as many confirmations as are asked for. A transaction that the node does not know is looked up three
    times more before it counts as dropped. Only a receipt of a success with an address is a deployment. -/

namespace SplitterLaunch

/-- What is asked of a deployment. The time limit is in milliseconds. -/
structure DeployRequest where
  admin : Address
  gasLimit : Option Quantity
  overrides : FeeOverrides
  confirmations : UInt64
  timeout : Nat
deriving DecidableEq, Repr

/-- A contract that was deployed. -/
structure Deployment where
  address : Address
  transaction : Hash
  blockNumber : Option UInt64
  deployer : Address
deriving DecidableEq, Repr

namespace Session

def decodeTransaction (source : Json.Source) : Option (Option Rpc.SentTransaction) :=
  (Rpc.json? Rpc.transactionShape source).bind (Json.asNullable? Rpc.sentTransaction?)

def decodeReceipt (source : Json.Source) : Option (Option Rpc.Receipt) :=
  (Rpc.json? Rpc.receiptShape source).bind (Json.asNullable? Rpc.receipt?)

def decodeBlockNumber (source : Json.Source) : Option UInt64 := (Rpc.json? .plain source).bind Rpc.word?

/-- How often a transaction may be unknown to the node before it counts as dropped. -/
def patience : Nat := 3

/-- How often something can be looked up within the time limit: once in a millisecond. -/
def looks (s : Session) : Nat := s.timeout

/-- Looks a transaction up until it is in a block, and gives the looks that are left then, or nothing if the
    transaction was dropped. Failed requests are repeated. -/
def awaitBlock (s : Session) (hash : Hash) : (looks patience : Nat) → Run (Option Nat)
  | 0, _ => s.giveUp
  | looks + 1, patience => do
    match ← s.attempt (.transaction hash) decodeTransaction with
    | .error _ => s.awaitBlock hash looks patience
    | .ok none => if patience = 0 then return none else s.awaitBlock hash looks (patience - 1)
    | .ok (some tx) => if tx.blockNumber.isSome then return some looks else s.awaitBlock hash looks patience

/-- Looks a receipt up until it is there, and gives it with the looks that are left then. Failed requests are
    repeated. -/
def awaitReceipt (s : Session) (hash : Hash) : (looks : Nat) → Run (Rpc.Receipt × Nat)
  | 0 => s.giveUp
  | looks + 1 => do
    match ← s.attempt (.receipt hash) decodeReceipt with
    | .ok (some receipt) => return (receipt, looks)
    | _ => s.awaitReceipt hash looks

/-- Whether a block has a number of confirmations, itself being the first, when another is the latest. The
    sum must be a block number. -/
def isConfirmed? (latest block confirmations : UInt64) : Option Bool :=
  if block.toNat + confirmations.toNat < UInt64.size then
    some (decide (block.toNat + confirmations.toNat - 1 < latest.toNat))
  else none

/-- Asks for the latest block until a receipt has its confirmations. A failed request ends the deployment. -/
def awaitConfirmations (s : Session) (receipt : Rpc.Receipt) (confirmations : UInt64) : (looks : Nat) → Run Unit
  | 0 => s.giveUp
  | looks + 1 => do
    let latest ← Run.require Failure.rpc (← s.attempt .blockNumber decodeBlockNumber)
    match receipt.blockNumber.bind fun block => isConfirmed? latest block confirmations with
    | none => Run.crash
    | some true => return
    | some false => s.awaitConfirmations receipt confirmations looks

/-- The receipt of a transaction that was sent, with its confirmations, or nothing if it was dropped. All looks
    count for one time limit. -/
def await (s : Session) (hash : Hash) (confirmations : UInt64) : Run (Option Rpc.Receipt) := do
  match ← s.awaitBlock hash s.looks patience with
  | none => return none
  | some looks =>
    let (receipt, looks) ← s.awaitReceipt hash looks
    if 1 < confirmations then s.awaitConfirmations receipt confirmations looks
    return some receipt

end Session

namespace Deployment

def ofReceipt (deployer : Address) (receipt : Rpc.Receipt) : Except DeploymentFault Deployment :=
  if receipt.status ≠ some 1 then .error (.reverted receipt.transaction)
  else match receipt.contract with
    | none => .error (.noContract receipt.transaction)
    | some address => .ok ⟨address, receipt.transaction, receipt.blockNumber, deployer⟩

def run (connection : Connection) (signer : Signer) (artifact : Artifact) (request : DeployRequest) :
    Run Deployment := do
  let tx ← Run.require .artifact (artifact.deployment request.admin)
  let session : Session := ⟨connection, request.timeout⟩
  let hash ← session.send signer (tx.override request.gasLimit request.overrides)
  match ← session.await hash request.confirmations with
  | none => Run.fail (.deployment (.dropped hash))
  | some receipt => Run.require .deployment (ofReceipt signer.address receipt)

def note : String := "Simple splitter for native/ERC20. Update this note if you upgrade contract."

/-- The record of a deployment to a network, on the chain with an id, for an administrator. -/
def record (d : Deployment) (networkName : String) (chainId : UInt64) (admin : Address) (explorer : Option Explorer)
    (now : Timestamp) : DeploymentRecord where
  address := d.address
  admin := admin
  networkName := networkName
  chainId := chainId
  transaction := d.transaction
  blockNumber := d.blockNumber
  deployedAt := now
  explorer := explorer
  constructorArguments := [admin.checksum]
  note := some note

end Deployment
end SplitterLaunch
