import SplitterLaunch.Command.Balance
import SplitterLaunch.Cost.Report
import SplitterLaunch.Cost.Summary
import SplitterLaunch.Estimation

/-! The command that estimates what a deployment costs. Nothing is sent. -/

namespace SplitterLaunch
namespace Estimate

def request (settings : Settings) : EstimateRequest := ⟨settings.gasLimit, settings.overrides, settings.fiat⟩

/-- Prints the estimate of a deployment to a network, as a report or as JSON. -/
def run (settings : Settings) (network : Network) (json : Bool) : Run Unit := do
  let admin ← Run.require .usage settings.requireAdmin
  let deployer ← Run.require .usage settings.deployer
  let artifact ← Run.settle .artifact (Artifact.load (← Run.files) settings.artifactPath)
  let connection ← Run.require .usage (settings.connect network)
  let tx ← Run.require .artifact (artifact.deployment admin)
  let estimate ← (request settings).run connection.chain { tx with sender := some deployer }
  if json then Run.print estimate.summary
  else Run.printAll (estimate.reportLines network.name admin)

end Estimate
end SplitterLaunch
