import SplitterLaunch.Artifact
import SplitterLaunch.Json.Decode

/-! The results that nodes give: quantities and bytes in hexadecimal after `0x`, blocks, transactions,
    receipts and fee histories. A result must be well formed as a whole, also in what is not used of it. -/

namespace SplitterLaunch
namespace Rpc

/-- The members that a result may have at most once: those of the result itself, and those of the items of one of
    them that is an array. -/
structure Shape where
  names : List String
  list : String
  itemNames : List String

/-- The shape of results that are no objects. -/
def Shape.plain : Shape := ⟨[], "", []⟩

/-- The items of a member that is an array. -/
def itemsOf (name : String) (j : Json) : List Json := ((j.member? name).bind Json.asArray?).getD []

/-- Whether a result as it is written has no member twice that it may have once. -/
def Shape.isKept (s : Shape) (written : Json) : Bool :=
  written.repeatsNone s.names && (itemsOf s.list written).all (Json.repeatsNone s.itemNames)

def json? (s : Shape) (source : Json.Source) : Option Json :=
  ((Json.writtenInside? 0 source).filter s.isKept).map Json.sorted

/-- Digits made up to whole bytes by a zero in front of a text of odd length. Blanks count for the length and
    denote nothing; a digit that they leave without a partner at the end is dropped. -/
def wholeBytes (cs : List Char) : List Char :=
  let digits := (if cs.length % 2 = 0 then [] else ['0']) ++ cs.filter fun c => !FixedBytes.isFiller c
  digits.take (digits.length / 2 * 2)

/-- A number below `2 ^ bits`, with at least one character after the mark and no more than the bound needs
    digits. The mark may be missing. -/
def number? (bits : Nat) (j : Json) : Option Nat := do
  let cs := FixedBytes.stripMark (← j.asString?).toList
  if cs.isEmpty || bits / 4 < cs.length || !cs.all (fun c => FixedBytes.isFiller c || Hex.isDigit c) then none
  else Hex.number? (wholeBytes cs)

def quantity? (j : Json) : Option Quantity := (number? 256 j).bind Quantity.ofNat?

def word? (j : Json) : Option UInt64 := (number? 64 j).map UInt64.ofNat

def bytes? (j : Json) : Option (List UInt8) := j.asString?.bind Artifact.code?

/-- The kinds of values in blocks, transactions and receipts. -/
inductive Kind where
  | quantity
  | word
  | bytes
  | hash
  | address
  | bloom
  | nonce
  | text
  | truth
  | hashes
  | byteStrings
  | array
deriving DecidableEq, Repr

/-- Whether a value is an array of what a reader takes. -/
def isArrayOf {α : Type} (read : Json → Option α) (j : Json) : Bool :=
  (j.asArray?.bind fun items => items.mapM read).isSome

def Kind.fits (j : Json) : Kind → Bool
  | .quantity => (quantity? j).isSome
  | .word => (word? j).isSome
  | .bytes => (bytes? j).isSome
  | .hash => (Json.asFixedBytes? 32 j).isSome
  | .address => (Json.asFixedBytes? 20 j).isSome
  | .bloom => (Json.asFixedBytes? 256 j).isSome
  | .nonce => (Json.asFixedBytes? 8 j).isSome
  | .text => j.asString?.isSome
  | .truth => j.asBool?.isSome
  | .hashes => isArrayOf (Json.asFixedBytes? 32) j
  | .byteStrings => isArrayOf bytes? j
  | .array => j.asArray?.isSome

/-- What may stand in for a value of a member's kind. -/
inductive Presence where
  /-- Nothing. -/
  | required
  /-- The member may be missing. -/
  | omissible
  /-- The member may be missing or `null`. -/
  | optional
deriving DecidableEq, Repr

/-- A member that an object may have. -/
structure Field where
  name : String
  kind : Kind
  presence : Presence
deriving DecidableEq, Repr

/-- Whether an object has a member as a field says. -/
def Field.holds (j : Json) (f : Field) : Bool :=
  match j.member? f.name with
  | none => f.presence != .required
  | some .null => f.presence == .optional
  | some value => f.kind.fits value

/-- Whether a value is an object with members as the fields say. -/
def isObjectOf (fields : List Field) (j : Json) : Bool := j.members?.isSome && fields.all (Field.holds j)

/-- Whether all items of a member that is an array are objects with members as the fields say. -/
def hasItemsOf (fields : List Field) (name : String) (j : Json) : Bool := (itemsOf name j).all (isObjectOf fields)

/-- A member that may be missing or `null`. -/
def optional? {α : Type} (j : Json) (name : String) (read : Json → Option α) : Option α :=
  (j.member? name).bind read

def withdrawalFields : List Field := [
  ⟨"index", .word, .required⟩, ⟨"validatorIndex", .word, .required⟩, ⟨"address", .address, .required⟩,
  ⟨"amount", .quantity, .required⟩]

def blockFields : List Field := [
  ⟨"hash", .hash, .optional⟩, ⟨"parentHash", .hash, .omissible⟩, ⟨"sha3Uncles", .hash, .omissible⟩,
  ⟨"miner", .address, .optional⟩, ⟨"stateRoot", .hash, .omissible⟩, ⟨"transactionsRoot", .hash, .omissible⟩,
  ⟨"receiptsRoot", .hash, .omissible⟩, ⟨"number", .word, .optional⟩, ⟨"gasUsed", .quantity, .omissible⟩,
  ⟨"gasLimit", .quantity, .omissible⟩, ⟨"extraData", .bytes, .omissible⟩, ⟨"logsBloom", .bloom, .optional⟩,
  ⟨"timestamp", .quantity, .omissible⟩, ⟨"difficulty", .quantity, .omissible⟩,
  ⟨"totalDifficulty", .quantity, .optional⟩, ⟨"sealFields", .byteStrings, .optional⟩,
  ⟨"uncles", .hashes, .omissible⟩, ⟨"transactions", .hashes, .omissible⟩, ⟨"size", .quantity, .optional⟩,
  ⟨"mixHash", .hash, .optional⟩, ⟨"nonce", .nonce, .optional⟩, ⟨"baseFeePerGas", .quantity, .optional⟩,
  ⟨"blobGasUsed", .quantity, .optional⟩, ⟨"excessBlobGas", .quantity, .optional⟩,
  ⟨"withdrawalsRoot", .hash, .optional⟩, ⟨"withdrawals", .array, .optional⟩,
  ⟨"parentBeaconBlockRoot", .hash, .optional⟩]

def accessFields : List Field := [⟨"address", .address, .required⟩, ⟨"storageKeys", .hashes, .required⟩]

def transactionFields : List Field := [
  ⟨"hash", .hash, .required⟩, ⟨"nonce", .quantity, .required⟩, ⟨"blockHash", .hash, .optional⟩,
  ⟨"blockNumber", .word, .optional⟩, ⟨"transactionIndex", .word, .optional⟩, ⟨"from", .address, .omissible⟩,
  ⟨"to", .address, .optional⟩, ⟨"value", .quantity, .required⟩, ⟨"gasPrice", .quantity, .optional⟩,
  ⟨"gas", .quantity, .required⟩, ⟨"input", .bytes, .required⟩, ⟨"v", .word, .required⟩,
  ⟨"r", .quantity, .required⟩, ⟨"s", .quantity, .required⟩, ⟨"type", .word, .optional⟩,
  ⟨"accessList", .array, .optional⟩, ⟨"maxPriorityFeePerGas", .quantity, .optional⟩,
  ⟨"maxFeePerGas", .quantity, .optional⟩, ⟨"chainId", .quantity, .optional⟩]

def logFields : List Field := [
  ⟨"address", .address, .required⟩, ⟨"topics", .hashes, .required⟩, ⟨"data", .bytes, .required⟩,
  ⟨"blockHash", .hash, .optional⟩, ⟨"blockNumber", .word, .optional⟩, ⟨"transactionHash", .hash, .optional⟩,
  ⟨"transactionIndex", .word, .optional⟩, ⟨"logIndex", .quantity, .optional⟩,
  ⟨"transactionLogIndex", .quantity, .optional⟩, ⟨"logType", .text, .optional⟩, ⟨"removed", .truth, .optional⟩]

def receiptFields : List Field := [
  ⟨"transactionHash", .hash, .required⟩, ⟨"transactionIndex", .word, .required⟩,
  ⟨"blockHash", .hash, .optional⟩, ⟨"blockNumber", .word, .optional⟩, ⟨"from", .address, .required⟩,
  ⟨"to", .address, .optional⟩, ⟨"cumulativeGasUsed", .quantity, .required⟩, ⟨"gasUsed", .quantity, .optional⟩,
  ⟨"contractAddress", .address, .optional⟩, ⟨"logs", .array, .required⟩, ⟨"status", .word, .optional⟩,
  ⟨"root", .hash, .optional⟩, ⟨"logsBloom", .bloom, .required⟩, ⟨"type", .word, .optional⟩,
  ⟨"effectiveGasPrice", .quantity, .optional⟩]

def namesOf (fields : List Field) : List String := fields.map (·.name)

def blockShape : Shape := ⟨namesOf blockFields, "withdrawals", namesOf withdrawalFields⟩

def transactionShape : Shape := ⟨namesOf transactionFields, "accessList", namesOf accessFields⟩

def receiptShape : Shape := ⟨namesOf receiptFields, "logs", namesOf logFields⟩

def historyShape : Shape := ⟨["baseFeePerGas", "gasUsedRatio", "oldestBlock", "reward"], "", []⟩

/-- What is used of a block: its base fee, on chains with a fee market. -/
structure Block where
  baseFee : Option Quantity
deriving DecidableEq, Repr

/-- What is used of a transaction that was sent: the block it is in, if it is in one. -/
structure SentTransaction where
  blockNumber : Option UInt64
deriving DecidableEq, Repr

/-- What is used of a receipt. -/
structure Receipt where
  transaction : Hash
  blockNumber : Option UInt64
  contract : Option Address
  status : Option UInt64
deriving DecidableEq, Repr

def block? (j : Json) : Option Block :=
  if isObjectOf blockFields j && hasItemsOf withdrawalFields "withdrawals" j then some ⟨optional? j "baseFeePerGas" quantity?⟩ else none

def sentTransaction? (j : Json) : Option SentTransaction :=
  if isObjectOf transactionFields j && hasItemsOf accessFields "accessList" j then some ⟨optional? j "blockNumber" word?⟩ else none

def receipt? (j : Json) : Option Receipt := do
  if isObjectOf receiptFields j && hasItemsOf logFields "logs" j then
    let hash ← optional? j "transactionHash" (Json.asFixedBytes? 32)
    return ⟨hash, optional? j "blockNumber" word?, optional? j "contractAddress" (Json.asFixedBytes? 20),
      optional? j "status" word?⟩
  else none

def isRatio : Json → Bool
  | .number _ => true
  | _ => false

/-- Whether a value tells the number of a block: as a number, or as text of at most 64 digits. -/
def isBlockNumber : Json → Bool
  | .number (.integer n) => 0 ≤ n.toInt
  | .string s => (FixedBytes.stripMark s.toList).length ≤ 64 && (FixedBytes.stripMark s.toList).all Hex.isDigit
  | _ => false

/-- The rewards in a fee history, a list for each block; none are told where the member is missing. -/
def rewards? (j : Json) : Option (List (List Quantity)) :=
  let list? (read : Json → Option Quantity) (v : Json) := v.asArray?.bind fun items => items.mapM read
  if ((j.member? "baseFeePerGas").bind (list? quantity?)).isSome
      && ((j.member? "gasUsedRatio").bind Json.asArray?).any (fun items => items.all isRatio)
      && (j.member? "oldestBlock").any isBlockNumber then
    match j.member? "reward" with
    | none => some []
    | some v => v.asArray?.bind fun blocks => blocks.mapM (list? quantity?)
  else none

end Rpc
end SplitterLaunch
