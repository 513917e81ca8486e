import SplitterLaunch.CodeCheck
import SplitterLaunch.Command.Balance
import SplitterLaunch.Contract
import SplitterLaunch.Deployment

/-! The command that deploys the contract and records the deployment. The chain is the one that the node
    names, which need not be the one that the network is listed with. A deployment that cannot be recorded is
    a failure; code on the chain that differs from the artifact is none. -/

namespace SplitterLaunch
namespace Deploy

def rule : String := "=============================================="

def planLines (networkName : String) (chainId : UInt64) (admin : Address) (gasLimit : Option Quantity)
    (overrides : FeeOverrides) : List String :=
  [rule,
   "Deploying " ++ contractName ++ "...",
   "Network   : " ++ networkName ++ " (chainId: " ++ String.ofList (Numeral.decimal chainId.toNat) ++ ")",
   "Admin     : " ++ admin.checksum]
    ++ (gasLimit.map fun gas => "Gas limit : " ++ gas.decimal).toList
    ++ (overrides.maxFee.map fun fee => "Max fee   : " ++ fee.gwei ++ " gwei").toList
    ++ (overrides.priorityFee.map fun fee => "Priority  : " ++ fee.gwei ++ " gwei").toList
    ++ [rule]

/-- A block number, or a dash where there is none. -/
def blockText : Option UInt64 → String
  | some block => String.ofList (Numeral.decimal block.toNat)
  | none => "-"

def outcomeLines (d : Deployment) (explorer : Option Explorer) : List String :=
  ["Deployed!",
   "Address  : " ++ d.address.checksum,
   "Block    : " ++ blockText d.blockNumber,
   "Deployer : " ++ d.deployer.checksum]
    ++ match explorer with
       | some site => [
         "Explorer : " ++ site.addressPage d.address.checksum,
         "Tx       : " ++ site.transactionPage d.transaction.text]
       | none => []

/-- Puts the record of a deployment into the ledger. -/
def recordIn (path : String) (chainId : UInt64) (r : DeploymentRecord) : Run Unit := do
  let w ← get
  let (result, disk) := Ledger.upsertFile path chainId contractName r w.disk
  set { w with disk }
  discard (Run.require .save result)

/-- Compares the code on the chain with the artifact's. A failure to do so is not reported. -/
def verify (connection : Connection) (address : Address) (expected : List UInt8) : Run Unit := do
  Run.print "Verifying runtime code..."
  let success ← tryCatch (do return (← CodeCheck.run connection.chain address expected).isMatch) fun stop =>
    match stop with
    | .failed _ => return false
    | .crashed => Run.crash
  if success then Run.print "Verify success"

def run (settings : Settings) (network : Network) : Run Unit := do
  let admin ← Run.require .usage settings.requireAdmin
  let key ← Run.require .usage settings.requireKey
  let artifact ← Run.settle .artifact (Artifact.load (← Run.files) settings.artifactPath)
  let connection ← Run.require .usage (settings.connect network)
  let chainId ← connection.chain.chainId
  Run.printAll (planLines network.name chainId admin settings.gasLimit settings.overrides)
  let deployment ← Deployment.run connection ⟨key, chainId⟩ artifact
    ⟨admin, settings.gasLimit, settings.overrides, settings.confirmations, settings.deployTimeout.toNat * 1000⟩
  let explorer := Explorer.ofChain? chainId
  Run.printAll (outcomeLines deployment explorer)
  let now := (← get).now
  recordIn settings.ledgerPath chainId (deployment.record network.name chainId admin explorer now)
  Run.print ("Written to: " ++ settings.ledgerPath)
  if settings.autoVerify then verify connection deployment.address artifact.runtimeCode

end Deploy
end SplitterLaunch
