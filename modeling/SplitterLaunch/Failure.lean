import SplitterLaunch.Artifact
import SplitterLaunch.Cost
import SplitterLaunch.Ledger.Store
import SplitterLaunch.Outcome
import SplitterLaunch.Rpc
import SplitterLaunch.Usage

/-! Why a command fails. Each cause comes from the part of the program that meets it; here they get their
    reports. -/

namespace SplitterLaunch

/-- Why a deployment failed after its transaction was built. -/
inductive DeploymentFault where
  | sending (fault : RpcFault)
  | dropped (hash : Hash)
  | reverted (hash : Hash)
  | noContract (hash : Hash)

def DeploymentFault.message : DeploymentFault → String
  | .sending fault => fault.message
  | .dropped hash => "transaction " ++ hash.text ++ " was dropped"
  | .reverted hash => "transaction " ++ hash.text ++ " reverted"
  | .noContract hash => "receipt for " ++ hash.text ++ " has no contract address"

/-- Why a command fails. -/
inductive Failure where
  | usage (fault : UsageFault)
  | cost (fault : CostFault)
  /-- Gas could not be estimated, for the reason that is reported. -/
  | noEstimate (reason : String)
  | rpc (fault : RpcFault)
  | timeout (method : String) (seconds : Nat)
  | save (fault : SaveFault)
  | artifact (fault : ArtifactFault)
  | deployment (fault : DeploymentFault)

namespace Failure

def message : Failure → String
  | .usage fault => fault.report
  | .cost fault => fault.message
  | .noEstimate reason => "Gas estimation unavailable: " ++ reason
  | .rpc fault => "RPC error: " ++ fault.message
  | .timeout method seconds =>
    "RPC call " ++ method ++ " timed out after " ++ String.ofList (Numeral.decimal seconds) ++ "s"
  | .save fault => fault.message
  | .artifact fault => fault.message
  | .deployment fault => "Deployment failed: " ++ fault.message

/-- The messages of what lies below a failure, the outermost first. -/
def causes : Failure → List String
  | .rpc fault => fault.messages
  | .save fault => [fault.fault.message]
  | _ => []

def isTimeout : Failure → Bool
  | .timeout _ _ => true
  | _ => false

end Failure
end SplitterLaunch
