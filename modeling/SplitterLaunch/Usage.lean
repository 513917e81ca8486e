import SplitterLaunch.Network.Registry
import SplitterLaunch.Url

/-! What can be wrong with what the user asks for or has set, found when it is used. -/

namespace SplitterLaunch

/-- Why a request of the user cannot be met. -/
inductive UsageFault where
  | unknownNetwork (fault : Registry.UnknownNetwork)
  | noAdmin
  | noKey
  | invalidKey (fault : Key.Fault)
  | noAddress
  | invalidAddress (text : String) (fault : Address.Fault)
  | invalidUrl (text : String) (fault : Url.Fault)
  | fee (fault : Gwei.Fault)
deriving DecidableEq, Repr

def UsageFault.message : UsageFault → String
  | .unknownNetwork fault => fault.message
  | .noAdmin => "ADMIN_WALLET / X402_ADMIN_WALLET not set"
  | .noKey => "PRIVATE_KEY not set"
  | .invalidKey fault => "invalid PRIVATE_KEY: " ++ fault.message
  | .noAddress => "set PRIVATE_KEY or ADMIN_WALLET, or pass --address"
  | .invalidAddress text fault => "invalid address " ++ text ++ ": " ++ fault.message
  | .invalidUrl text fault => "invalid RPC URL " ++ text ++ ": " ++ fault.message
  | .fee fault => fault.message

def UsageFault.report (fault : UsageFault) : String := "Configuration error: " ++ fault.message

end SplitterLaunch
