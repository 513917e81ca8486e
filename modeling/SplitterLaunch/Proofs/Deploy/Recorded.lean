import SplitterLaunch.Proofs.Deploy.Command
import SplitterLaunch.Proofs.Ledger.Upserting

/-! What becomes of the ledger. The deploy command touches it only for a landing that the node told, and succeeds
    exactly if there is one and its record could be put in. If it could not, the contract's address is printed
    nevertheless, and the file is as it was. -/

namespace SplitterLaunch
namespace Deploy

/-- What comes of putting the record of a landing into the ledger. -/
def put (settings : Settings) (network : Network) (w : World) (p : Preparation) (chainId : UInt64) (l : Landing) :
    Except SaveFault Ledger × Disk :=
  Ledger.upsertFile settings.ledgerPath chainId contractName
    (recordOf network p chainId (l.deployment p.key.address) w.now) w.disk

variable {settings : Settings} {network : Network} {w w' : World} {result : Except (Stop Failure) Unit}
  {p : Preparation} {chainId : UInt64} {first sent checks : List Exchange}

end Deploy
end SplitterLaunch
