import SplitterLaunch.Contract
import SplitterLaunch.Cost
import SplitterLaunch.FixedBytes

/-! An estimate as a report for people. Facts that are not known have no line, and equal bounds are written
    once. -/

namespace SplitterLaunch
namespace CostEstimate

def rule : String := "====================================================="

def thinRule : String := "-----------------------------------------------------"

/-- A label filled up with blanks to 26 characters, and what it labels. -/
def labelled (label value : String) : String :=
  label ++ String.ofList (List.replicate (26 - label.length) ' ') ++ ": " ++ value

def feeLine (label : String) : Option Quantity → List String
  | some fee => [labelled label (fee.decimal ++ " (" ++ fee.gwei ++ " gwei)")]
  | none => []

def gweiOrDash : Option Quantity → String
  | some fee => fee.gwei
  | none => "-"

/-- The lines on what the node told and the user set. -/
def feeLines (quote : FeeQuote) (overrides : FeeOverrides) : List String :=
  feeLine "baseFeePerGas (wei)" quote.baseFee
    ++ feeLine "suggested priority (wei)" quote.priorityFee
    ++ feeLine "suggested maxFee (wei)" quote.maxFee
    ++ feeLine "legacy gasPrice (wei)" quote.gasPrice
    ++ if overrides.isEmpty then []
       else [labelled "OVERRIDE maxFee/priority"
              (gweiOrDash overrides.maxFee ++ " / " ++ gweiOrDash overrides.priorityFee ++ " gwei")]

def costLine (label symbol : String) (amount : Quantity) (tokens : String) : String :=
  labelled label (amount.decimal ++ " wei (~" ++ tokens ++ " " ++ symbol ++ ")")

def costLines (e : CostEstimate) : List String :=
  let upper (label : String) := costLine label e.token.symbol e.cost.upper e.costNative.upper
  if e.cost.isExact then [upper "Estimated cost"]
  else [upper "Upper bound cost", costLine "Lower bound cost" e.token.symbol e.cost.lower e.costNative.lower]

def fiatLine (label : String) (amount : FiatAmount) : String :=
  "≈ " ++ label ++ amount.usdText ++ "  | " ++ amount.idrText

def fiatLines (e : CostEstimate) : List String :=
  match e.fiat with
  | some (.exact amount) => [fiatLine "" amount]
  | some (.range lower upper) => [fiatLine "Lower:  " lower, fiatLine "Upper:  " upper]
  | none =>
    let key := e.token.priceVariable
    ["(Tip) Set " ++ key ++ " for USD/IDR conversion, e.g. " ++ key ++ "=0.62"]

/-- The lines of the report on a deployment to a network for an administrator. -/
def reportLines (networkName : String) (admin : Address) (e : CostEstimate) : List String :=
  [rule,
   "Estimating deploy cost for " ++ contractName,
   thinRule,
   "Network        : " ++ networkName,
   "Chain ID       : " ++ String.ofList (Numeral.decimal e.chainId.toNat),
   "Admin (ctor)   : " ++ admin.text,
   thinRule,
   labelled "Estimated gas units" e.gas.decimal]
    ++ feeLines e.quote e.overrides
    ++ [thinRule] ++ e.costLines
    ++ [thinRule] ++ e.fiatLines
    ++ [rule]

/-- The report, each line with its end. -/
def report (networkName : String) (admin : Address) (e : CostEstimate) : String :=
  String.join ((e.reportLines networkName admin).map (· ++ "\n"))

end CostEstimate
end SplitterLaunch
