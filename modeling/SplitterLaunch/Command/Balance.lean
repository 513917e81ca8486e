import SplitterLaunch.Chain
import SplitterLaunch.Quantity.Units
import SplitterLaunch.Settings

/-! The command that prints the balance of an account. -/

namespace SplitterLaunch

/-- The connection to a network, as the settings have it. -/
def Settings.connect (s : Settings) (network : Network) : Except UsageFault Connection :=
  Connection.open? network.rpcUrl (s.rpcTimeout.toNat * 1000)

namespace Balance

def rule : String := "=========================================="

/-- The lines on an account's balance on the chain with an id. -/
def lines (networkName : String) (chainId : UInt64) (account : Address) (balance : Quantity) : List String := [
  rule,
  "Network : " ++ networkName ++ " (chainId: " ++ String.ofList (Numeral.decimal chainId.toNat) ++ ")",
  "Signer  : " ++ account.checksum,
  "Balance : " ++ balance.native ++ " " ++ (NativeToken.ofChain chainId).symbol,
  rule]

/-- Prints the balance of the account that is named, or else of the deployer. -/
def run (settings : Settings) (network : Network) (named : Option String) : Run Unit := do
  let account ← Run.require .usage (settings.accountOf named)
  let connection ← Run.require .usage (settings.connect network)
  let chain := connection.chain
  let chainId ← chain.chainId
  let balance ← chain.balance account
  Run.printAll (lines network.name chainId account balance)

end Balance
end SplitterLaunch
