/-! The contract that is deployed. -/

namespace SplitterLaunch

/-- The name under which the contract is compiled, deployed and recorded. -/
def contractName : String := "X402Splitter"

end SplitterLaunch
