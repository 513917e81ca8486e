import SplitterLaunch.Artifact
import SplitterLaunch.Fiat
import SplitterLaunch.Ledger.Store
import SplitterLaunch.Usage

/-! The settings of a run, read from the environment. Blank values count as not set. Variables are read in a
    fixed order, and the first that cannot be read is reported; only then are the values checked, again in a
    fixed order. -/

namespace SplitterLaunch

/-- The settings of a run. Timeouts are in seconds. -/
structure Settings where
  admin : Option Address
  privateKey : Option String
  confirmations : UInt64
  autoVerify : Bool
  gasLimit : Option Quantity
  overrides : FeeOverrides
  fiat : FiatSettings
  ledgerPath : String
  artifactPath : String
  rpcTimeout : UInt64
  deployTimeout : UInt64
  registry : Registry
deriving DecidableEq, Repr

/-- Why there are no settings. -/
inductive SettingsFault where
  | unreadable (fault : VariableFault)
  | noConfirmations
  | badDollarRate
  | badPrice (name : String)
  | noTimeout
  | badPrivateKey
deriving DecidableEq, Repr

/-- The messages of a fault, the general one first. -/
def SettingsFault.messages : SettingsFault → List String
  | .unreadable fault => fault.messages
  | .noConfirmations => ["CONFIRMATIONS must be at least 1"]
  | .badDollarRate => ["DOLLAR_USD_TO_RUPIAH must be a positive number"]
  | .badPrice name => [name ++ " must be a non-negative number"]
  | .noTimeout => ["RPC_TIMEOUT_SECS and DEPLOY_TIMEOUT_SECS must be positive"]
  | .badPrivateKey => ["PRIVATE_KEY must be 32 bytes of hex"]

namespace Settings

/-- The seconds to wait for one reply of a node, and for a deployment, unless they are set. -/
def defaultRpcTimeout : UInt64 := 30

def defaultDeployTimeout : UInt64 := 300

def readOptional {α : Type} (env : Environment) (name subject : String)
    (read : String → Outcome ValueFault α) : Outcome SettingsFault (Option α) :=
  match env name with
  | none => .ok none
  | some value =>
    match read value with
    | .ok x => .ok (some x)
    | .error stop => .error (stop.map fun cause => .unreadable ⟨subject, cause⟩)

/-- Reads the value of a variable under its own name. -/
def readVariable {α : Type} (env : Environment) (name : String) (read : String → Outcome ValueFault α) :
    Outcome SettingsFault (Option α) := readOptional env name name read

def readAddress (s : String) : Outcome ValueFault Address := .ofExcept ((Address.read s).mapError .address)

def readFloat (s : String) : Outcome ValueFault Binary64 :=
  match Binary64.read? s.toList with
  | some x => .ok x
  | none => .fail .float

def readInteger (s : String) : Outcome ValueFault UInt64 :=
  .ofExcept ((Numeral.readUInt64 s.toList).mapError .integer)

def readQuantity (s : String) : Outcome ValueFault Quantity :=
  .ofExcept ((Quantity.read s.toList).mapError .quantity)

def readGwei (s : String) : Outcome ValueFault Quantity := (Gwei.read s).mapReason .gwei

/-- The variables that may name the administrator, the first one that is set counting. -/
def adminVariables : List String := ["ADMIN_WALLET", "X402_ADMIN_WALLET"]

def variableNames : List String :=
  adminVariables ++ NativeToken.priceVariables
    ++ ["CONFIRMATIONS", "GAS_LIMIT", "MAX_FEE_GWEI", "MAX_PRIORITY_FEE_GWEI", "DOLLAR_USD_TO_RUPIAH",
        "RPC_TIMEOUT_SECS", "DEPLOY_TIMEOUT_SECS", "PRIVATE_KEY", "AUTO_VERIFY", "DEPLOYMENTS_FILE",
        "X402_ARTIFACT"]
    ++ knownNetworks.flatMap fun known => known.rpcVariable :: known.chainVariable.toList

/-- The environment with the administrator under a single name. -/
def adminIn (env : Environment) : Environment := fun _ => adminVariables.findSome? env

/-- The prices that are set, in the order of their variables. -/
def readPrices (env : Environment) : List String → Outcome SettingsFault (List (String × Binary64))
  | [] => .ok []
  | name :: names => do
    let price ← readVariable env name readFloat
    let prices ← readPrices env names
    return match price with
      | some x => (name, x) :: prices
      | none => prices

/-- Whether a text is 32 bytes in hexadecimal digits, after at most one `0x`. -/
def isKeyText (s : String) : Bool :=
  let digits := FixedBytes.stripMark s.toList
  digits.length == 64 && digits.all Hex.isDigit

/-- The first thing that is wrong with settings that could be read. -/
def fault? (s : Settings) : Option SettingsFault :=
  if s.confirmations = 0 then some .noConfirmations
  else if !(s.fiat.usdToIdr.isFinite && s.fiat.usdToIdr.isPositive) then some .badDollarRate
  else match s.fiat.prices.find? fun p => !(p.2.isFinite && p.2.isNonnegative) with
    | some (name, _) => some (.badPrice name)
    | none =>
      if s.rpcTimeout = 0 ∨ s.deployTimeout = 0 then some .noTimeout
      else match s.privateKey with
        | some key => if isKeyText key then none else some .badPrivateKey
        | none => none

/-- The settings in an environment whose values have no blanks around them, before they are checked. -/
def readTrimmed (env : Environment) : Outcome SettingsFault Settings := do
  let admin ← readOptional (adminIn env) "" "address for ADMIN_WALLET / X402_ADMIN_WALLET" readAddress
  let prices ← readPrices env NativeToken.priceVariables
  let confirmations ← readVariable env "CONFIRMATIONS" readInteger
  let gasLimit ← readVariable env "GAS_LIMIT" readQuantity
  let maxFee ← readVariable env "MAX_FEE_GWEI" readGwei
  let priorityFee ← readVariable env "MAX_PRIORITY_FEE_GWEI" readGwei
  let usdToIdr ← readVariable env "DOLLAR_USD_TO_RUPIAH" readFloat
  let rpcTimeout ← readVariable env "RPC_TIMEOUT_SECS" readInteger
  let deployTimeout ← readVariable env "DEPLOY_TIMEOUT_SECS" readInteger
  let registry ← .ofExcept ((Registry.ofEnvironment env).mapError .unreadable)
  return {
    admin := admin
    privateKey := env "PRIVATE_KEY"
    confirmations := confirmations.getD 1
    autoVerify := env "AUTO_VERIFY" == some "true"
    gasLimit := gasLimit
    overrides := ⟨maxFee, priorityFee⟩
    fiat := ⟨prices, usdToIdr.getD FiatSettings.defaultUsdToIdr⟩
    ledgerPath := (env "DEPLOYMENTS_FILE").getD Ledger.defaultPath
    artifactPath := (env "X402_ARTIFACT").getD Artifact.defaultPath
    rpcTimeout := rpcTimeout.getD defaultRpcTimeout
    deployTimeout := deployTimeout.getD defaultDeployTimeout
    registry := registry }

def ofEnvironment (env : Environment) : Outcome SettingsFault Settings := do
  let settings ← readTrimmed env.trimmed
  match settings.fault? with
  | some fault => .fail fault
  | none => return settings

/-! ### Accounts -/

/-- The administrator, who must be set. -/
def requireAdmin (s : Settings) : Except UsageFault Address :=
  match s.admin with
  | some admin => .ok admin
  | none => .error .noAdmin

def readKey (text : String) : Except UsageFault Key := (Key.read text).mapError .invalidKey

/-- The key that signs, if one is set. -/
def key (s : Settings) : Except UsageFault (Option Key) :=
  match s.privateKey with
  | none => .ok none
  | some text => (readKey text).map some

/-- The key that signs, which must be set. -/
def requireKey (s : Settings) : Except UsageFault Key := do
  match ← s.key with
  | some key => return key
  | none => .error .noKey

theorem requireAdmin_eq_ok_iff {s : Settings} {admin : Address} : s.requireAdmin = .ok admin ↔ s.admin = some admin := by
  unfold requireAdmin
  cases s.admin <;> simp

theorem requireKey_eq_ok_iff {s : Settings} {key : Key} :
    s.requireKey = .ok key ↔ ∃ text, s.privateKey = some text ∧ readKey text = .ok key := by
  unfold requireKey Settings.key
  cases s.privateKey with
  | none => simp [bind, Except.bind]
  | some text => cases hread : readKey text <;> simp [bind, Except.bind, Except.map, pure, Except.pure, hread]

/-- The account that a deployment is sent from: that of the key if one is set, else the administrator. -/
def deployer (s : Settings) : Except UsageFault Address := do
  match ← s.key with
  | some key => return key.address
  | none => s.requireAdmin

/-- The account to look at: the one that is named, else the deployer. -/
def accountOf (s : Settings) (named : Option String) : Except UsageFault Address :=
  match named with
  | some text => (Address.read text).mapError (.invalidAddress text)
  | none => s.deployer.mapError fun _ => .noAddress

end Settings
end SplitterLaunch
