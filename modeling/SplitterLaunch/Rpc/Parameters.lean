import SplitterLaunch.Json.Decode
import SplitterLaunch.Node

/-! The parameters of requests, as they are sent. Numbers are in hexadecimal, with as few digits as there can
    be. A transaction whose gas is asked for is sent without its chain id, and with the kind of its pricing. -/

namespace SplitterLaunch
namespace Rpc

/-- A number after `0x`. -/
def hexNumber (n : Nat) : Json := .string (String.ofList ('0' :: 'x' :: Nat.toDigits 16 n))

/-- Bytes after `0x`. -/
def hexBytes (bytes : List UInt8) : Json := .string (String.ofList ('0' :: 'x' :: Hex.encode bytes))

def optionalMember {α : Type} (name : String) (f : α → Json) : Option α → Json.Members
  | some x => [(name, f x)]
  | none => []

def accessEntryJson (entry : AccessEntry) : Json :=
  .object [("address", entry.account.toJson), ("storageKeys", .array (entry.places.map FixedBytes.toJson))]

/-- The members that tell how a transaction pays for gas, and with them its access list. -/
def pricingMembers (accessList : List AccessEntry) : Pricing → Json.Members
  | .legacy gasPrice => ("type", .string "0x00") :: optionalMember "gasPrice" (hexNumber ∘ Quantity.toNat) gasPrice
  | .accessList gasPrice =>
    ("type", .string "0x01") :: ("accessList", .array (accessList.map accessEntryJson))
      :: optionalMember "gasPrice" (hexNumber ∘ Quantity.toNat) gasPrice
  | .feeMarket maxFee priorityFee =>
    ("type", .string "0x02") :: ("accessList", .array (accessList.map accessEntryJson))
      :: optionalMember "maxFeePerGas" (hexNumber ∘ Quantity.toNat) maxFee
      ++ optionalMember "maxPriorityFeePerGas" (hexNumber ∘ Quantity.toNat) priorityFee

def transactionJson (tx : Transaction) : Json :=
  .object (pricingMembers tx.accessList tx.pricing
    ++ optionalMember "from" FixedBytes.toJson tx.sender
    ++ optionalMember "to" FixedBytes.toJson tx.recipient
    ++ optionalMember "gas" (hexNumber ∘ Quantity.toNat) tx.gas
    ++ optionalMember "value" (hexNumber ∘ Quantity.toNat) tx.value
    ++ optionalMember "data" hexBytes tx.data
    ++ optionalMember "nonce" (hexNumber ∘ Quantity.toNat) tx.nonce)

def historyBlocks : Nat := 10

/-- The percentile of the rewards that are asked for. -/
def historyPercentile : Json := Json.ofBinary64 (.ofNat 5)

/-- The parameters of a request, given how a signed transaction is written. Some methods have none. -/
def parameters? (signed : Transaction → Address → Json) : Request → Option Json
  | .latestBlock => some (.array [.string "latest", .bool false])
  | .balance account | .code account | .transactionCount account =>
    some (.array [account.toJson, .string "latest"])
  | .estimateGas tx => some (.array [transactionJson tx])
  | .feeHistory hexadecimal =>
    let count := if hexadecimal then hexNumber historyBlocks else Json.ofUInt64 (UInt64.ofNat historyBlocks)
    some (.array [count, .string "latest", .array [historyPercentile]])
  | .broadcast tx signer => some (.array [signed tx signer])
  | .transaction hash | .receipt hash => some (.array [hash.toJson])
  | _ => none

end Rpc
end SplitterLaunch
