import SplitterLaunch.Rpc.Values
import SplitterLaunch.World

/-! A chain as the estimator, the balance check and the code check use it, and the one that a node gives
    access to. Each request is sent once and waits for one reply; a reply that does not come in time is
    reported with the method that was called. -/

namespace SplitterLaunch

/-- What can be asked of a chain, with effects in `m`. -/
structure Chain (m : Type → Type) where
  chainId : m UInt64
  feeQuote : m FeeQuote
  estimateGas : Transaction → m Quantity
  balance : Address → m Quantity
  code : Address → m (List UInt8)

/-- A node that requests can be sent to, and the milliseconds to wait for a reply. -/
structure Connection where
  url : Url
  timeout : Nat
deriving DecidableEq, Repr

namespace Connection

/-- Connects to the node at a URL, which sends nothing yet. -/
def open? (url : String) (timeout : Nat) : Except UsageFault Connection :=
  match Url.read url with
  | .ok u => .ok ⟨u.withoutCredentials, timeout⟩
  | .error fault => .error (.invalidUrl url fault)

def request {α : Type} (c : Connection) (request : Request) (decode : Json.Source → Option α) :
    Run (Except Unanswered α) := do
  if !c.url.isWeb then return .error (.fault (.unsupported c.url.text))
  else if !c.url.isSendable then return .error (.fault (.unsendable c.url.text))
  else return Rpc.interpret c.url decode (← Run.ask request)

def failure (c : Connection) (method : String) : Unanswered → Failure
  | .silence => .timeout method (c.timeout / 1000)
  | .fault fault => .rpc fault

def call {α : Type} (c : Connection) (request : Request) (decode : Json.Source → Option α) : Run α := do
  Run.require (c.failure request.method) (← c.request request decode)

def optionalCall {α : Type} (c : Connection) (request : Request) (decode : Json.Source → Option α) :
    Run (Option α) := do
  match ← c.request request decode with
  | .ok x => return some x
  | .error (.fault (.refused _ _ _)) => return none
  | .error unanswered => Run.fail (c.failure request.method unanswered)

def decodeQuantity (source : Json.Source) : Option Quantity := (Rpc.json? .plain source).bind Rpc.quantity?

def decodeBytes (source : Json.Source) : Option (List UInt8) := (Rpc.json? .plain source).bind Rpc.bytes?

/-- The latest block, or nothing where the node has none. -/
def decodeBlock (source : Json.Source) : Option (Option Rpc.Block) :=
  (Rpc.json? Rpc.blockShape source).bind (Json.asNullable? Rpc.block?)

/-- The chain id. A node may give one of more than 64 bits, which is not provided for. -/
def chainId (c : Connection) : Run UInt64 := do
  let id ← c.call .chainId decodeQuantity
  if id.toNat < UInt64.size then return UInt64.ofNat id.toNat else Run.crash

/-- What the node tells about fees. Gas price and priority fee may be refused, the block may not. -/
def feeQuote (c : Connection) : Run FeeQuote := do
  let block ← c.call .latestBlock decodeBlock
  let gasPrice ← c.optionalCall .gasPrice decodeQuantity
  let priorityFee ← c.optionalCall .priorityFee decodeQuantity
  return FeeQuote.ofNode (block.bind Rpc.Block.baseFee) gasPrice priorityFee

def chain (c : Connection) : Chain Run where
  chainId := c.chainId
  feeQuote := c.feeQuote
  estimateGas tx := c.call (.estimateGas tx) decodeQuantity
  balance account := c.call (.balance account) decodeQuantity
  code account := c.call (.code account) decodeBytes

end Connection

/-! ### Chains with given answers -/

/-- A question to a chain. -/
inductive Question where
  | chainId
  | feeQuote
  | estimateGas
  | balance
  | code
deriving DecidableEq, Repr

/-- What a chain answers to each question, whenever it is asked. -/
structure Answers where
  chainId : Outcome Failure UInt64
  feeQuote : Outcome Failure FeeQuote
  estimateGas : Outcome Failure Quantity
  balance : Outcome Failure Quantity
  code : Outcome Failure (List UInt8)

/-- A computation that keeps the questions it asked, in order. -/
abbrev Asking (α : Type) := ExceptT (Stop Failure) (StateM (List Question)) α

namespace Answers

def answer {α : Type} (question : Question) (result : Outcome Failure α) : Asking α := do
  modify fun asked => asked ++ [question]
  liftExcept result
where
  /-- A computation that asks nothing. -/
  liftExcept (result : Outcome Failure α) : Asking α := ExceptT.mk (pure result)

def chain (a : Answers) : Chain Asking where
  chainId := answer .chainId a.chainId
  feeQuote := answer .feeQuote a.feeQuote
  estimateGas _ := answer .estimateGas a.estimateGas
  balance _ := answer .balance a.balance
  code _ := answer .code a.code

end Answers
end SplitterLaunch
