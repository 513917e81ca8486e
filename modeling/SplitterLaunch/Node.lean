import SplitterLaunch.Files.Fault
import SplitterLaunch.Json
import SplitterLaunch.Transaction

/-! Nodes of a chain, as a program sees them: for each request there is a reply, which may depend on all
    requests before it. What was asked and answered is kept, so that statements can be made about it. -/

namespace SplitterLaunch

/-- What a program can ask a node. -/
inductive Request where
  | chainId
  | latestBlock
  | gasPrice
  | priorityFee
  | balance (account : Address)
  | code (account : Address)
  | transactionCount (account : Address)
  | estimateGas (tx : Transaction)
  /-- The fees of the last ten blocks. The number of blocks is written in one of two ways. -/
  | feeHistory (hexadecimal : Bool)
  /-- A signed transaction, with the account that signed it. -/
  | broadcast (tx : Transaction) (signer : Address)
  | transaction (hash : Hash)
  | receipt (hash : Hash)
  | blockNumber
deriving DecidableEq, Repr

/-- What comes back for a request. -/
inductive Reply where
  | body (text : String)
  /-- Nothing comes back. -/
  | silence
  /-- The request does not reach the node. -/
  | unreachable (fault : OsFault)
deriving DecidableEq, Repr

/-- A request and its reply. -/
structure Exchange where
  request : Request
  reply : Reply
deriving DecidableEq, Repr

def Exchange.received (e : Exchange) : Bool :=
  match e.reply with
  | .unreachable _ => false
  | _ => true

/-- A node: its reply to a request, given the exchanges before it, the latest first. -/
structure Node where
  reply : List Exchange → Request → Reply

namespace Request

def method : Request → String
  | .chainId => "eth_chainId"
  | .latestBlock => "eth_getBlockByNumber"
  | .gasPrice => "eth_gasPrice"
  | .priorityFee => "eth_maxPriorityFeePerGas"
  | .balance _ => "eth_getBalance"
  | .code _ => "eth_getCode"
  | .transactionCount _ => "eth_getTransactionCount"
  | .estimateGas _ => "eth_estimateGas"
  | .feeHistory _ => "eth_feeHistory"
  | .broadcast _ _ => "eth_sendRawTransaction"
  | .transaction _ => "eth_getTransactionByHash"
  | .receipt _ => "eth_getTransactionReceipt"
  | .blockNumber => "eth_blockNumber"

def isBroadcast : Request → Bool
  | .broadcast _ _ => true
  | _ => false

end Request

namespace Node

def unreachable (fault : OsFault) : Node := ⟨fun _ _ => .unreachable fault⟩

end Node
end SplitterLaunch
