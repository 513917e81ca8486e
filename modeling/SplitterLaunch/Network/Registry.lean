import SplitterLaunch.Environment
import SplitterLaunch.Network
import SplitterLaunch.Text.Quoted

/-! The networks that can be selected. Their list is fixed; the environment may replace the chain id and the
    RPC address of each, and its explorer follows the chain id. -/

namespace SplitterLaunch

/-- A network of the fixed list, with the variables that replace its chain id and RPC address. -/
structure KnownNetwork where
  name : String
  aliases : List String
  chainId : UInt64
  rpcUrl : String
  rpcVariable : String
  chainVariable : Option String
deriving DecidableEq, Repr

def knownNetworks : List KnownNetwork := [
  { name := "polygonAmoyTestnet", aliases := ["polygonAmoy", "amoy"], chainId := 80002,
    rpcUrl := "https://polygon-amoy-bor.publicnode.com",
    rpcVariable := "AMOY_RPC_HTTP", chainVariable := some "AMOY_CHAIN_ID" },
  { name := "polygonMainnet", aliases := ["polygon", "matic"], chainId := 137,
    rpcUrl := "https://polygon-rpc.com",
    rpcVariable := "POLYGON_RPC_HTTP", chainVariable := some "POLYGON_CHAIN_ID" },
  { name := "megaTestnet", aliases := ["mega"], chainId := 6342,
    rpcUrl := "https://carrot.megaeth.com/rpc",
    rpcVariable := "MEGA_RPC_HTTP", chainVariable := some "MEGA_CHAIN_ID" },
  { name := "hardhat", aliases := ["localhost", "local"], chainId := 31337,
    rpcUrl := "http://127.0.0.1:8545",
    rpcVariable := "HARDHAT_RPC_HTTP", chainVariable := none }]

namespace KnownNetwork

/-- The chain id in an environment: the number in its variable, or the one of the list. -/
def chainIdIn (known : KnownNetwork) (env : Environment) : Except VariableFault UInt64 :=
  match known.chainVariable with
  | none => .ok known.chainId
  | some name =>
    match env name with
    | none => .ok known.chainId
    | some value => (Numeral.readUInt64 (Text.trim value.toList)).mapError fun fault => ⟨name, .integer fault⟩

def networkIn (known : KnownNetwork) (env : Environment) : Except VariableFault Network := do
  let chainId ← known.chainIdIn env
  return { name := known.name, aliases := known.aliases, chainId := chainId,
           rpcUrl := (env known.rpcVariable).getD known.rpcUrl, explorer := Explorer.ofChain? chainId }

end KnownNetwork

/-- The networks that can be selected. -/
structure Registry where
  networks : List Network
deriving DecidableEq, Repr

namespace Registry

/-- The name of the network that is selected when none is named. -/
def defaultName : String := "polygonAmoyTestnet"

/-- The networks in an environment, or the first fault in its chain ids. -/
def ofEnvironment (env : Environment) : Except VariableFault Registry :=
  (knownNetworks.mapM (KnownNetwork.networkIn · env)).map Registry.mk

def names (r : Registry) : List String := r.networks.map (·.name)

/-- A name that no network answers to, and the names there are. -/
structure UnknownNetwork where
  name : String
  expected : List String
deriving DecidableEq, Repr

def UnknownNetwork.message (fault : UnknownNetwork) : String :=
  "unknown network " ++ Text.quoted fault.name ++ ", expected one of: " ++ ", ".intercalate fault.expected

/-- The first network that answers to the name, or to the default name if none is given. -/
def resolve (r : Registry) (name : Option String) : Except UnknownNetwork Network :=
  let text := name.getD defaultName
  match r.networks.find? (·.answersTo text) with
  | some network => .ok network
  | none => .error ⟨text, r.names⟩

end Registry
end SplitterLaunch
