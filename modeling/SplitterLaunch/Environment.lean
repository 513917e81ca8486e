import SplitterLaunch.Account
import SplitterLaunch.Quantity.Gwei

/-! The variables that settings are read from, and what can be wrong with one of them. -/

namespace SplitterLaunch

abbrev Environment := String → Option String

namespace Environment

/-- The variables without the blanks around their values; a variable that is then empty is not set. -/
def trimmed (env : Environment) : Environment := fun name =>
  (env name).bind fun value =>
    let cs := Text.trim value.toList
    if cs.isEmpty then none else some (String.ofList cs)

end Environment

/-- Why the value of a variable cannot be read. -/
inductive ValueFault where
  | address (fault : Address.Fault)
  | float
  | integer (fault : Numeral.Fault)
  | quantity (fault : Numeral.Fault)
  | gwei (fault : Gwei.Fault)
deriving DecidableEq, Repr

def ValueFault.message : ValueFault → String
  | .address fault => fault.message
  | .float => "invalid float literal"
  | .integer fault => fault.message
  | .quantity fault => Quantity.faultMessage fault
  | .gwei fault => "Configuration error: " ++ fault.message

/-- A variable whose value cannot be read. The subject names it. -/
structure VariableFault where
  subject : String
  cause : ValueFault
deriving DecidableEq, Repr

/-- The messages of a fault, the general one first. -/
def VariableFault.messages (fault : VariableFault) : List String :=
  ["Invalid " ++ fault.subject, fault.cause.message]

end SplitterLaunch
