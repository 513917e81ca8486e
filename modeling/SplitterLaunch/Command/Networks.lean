import SplitterLaunch.Network.Registry
import SplitterLaunch.World

/-! The command that lists the networks. -/

namespace SplitterLaunch
namespace Networks

def lines (n : Network) : List String := [
  n.name ++ (if n.name = Registry.defaultName then " (default)" else ""),
  "  aliases  : " ++ ", ".intercalate n.aliases,
  "  chain id : " ++ String.ofList (Numeral.decimal n.chainId.toNat),
  "  rpc      : " ++ n.rpcUrl,
  "  explorer : " ++ n.explorer.getD "-",
  "  native   : " ++ n.token.symbol]

def listing (r : Registry) : List String :=
  ["networks: [" ++ ", ".intercalate (r.names.map Text.quoted) ++ "]",
   "defaultNetwork: " ++ Registry.defaultName,
   ""] ++ r.networks.flatMap lines

def run (r : Registry) : Run Unit := Run.printAll (listing r)

end Networks
end SplitterLaunch
