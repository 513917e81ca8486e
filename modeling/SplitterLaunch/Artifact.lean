import SplitterLaunch.Abi
import SplitterLaunch.Contract
import SplitterLaunch.Files
import SplitterLaunch.Transaction

/-! Compiled contracts: name, interface, the code that a deployment runs and the code it leaves on the chain.
    A deployment's data is the creation code followed by its only argument, an address in a word of 32
    bytes. -/

namespace SplitterLaunch

/-- Why a deployment cannot be built. -/
inductive EncodingFault where
  | wrongArguments
  | noConstructor
deriving DecidableEq, Repr

def EncodingFault.message : EncodingFault → String
  | .wrongArguments => "Invalid data"
  | .noConstructor => "constructor is not defined in the ABI"

/-- What is wrong with an artifact. -/
inductive ArtifactFault where
  | unreadable (path : String) (fault : OsFault)
  | malformed
  | noCode (name : String)
  /-- The file at a path holds an artifact with something wrong. -/
  | inFile (path : String) (fault : ArtifactFault)
  | encoding (fault : EncodingFault)
deriving DecidableEq, Repr

def ArtifactFault.message (fault : ArtifactFault) : String :=
  "Contract artifact error: " ++ match fault with
    | .unreadable path fault =>
      "cannot read " ++ path ++ " (compile the contracts first): " ++ fault.message
    | .malformed => "malformed artifact"
    | .noCode name => name ++ " has no creation bytecode"
    | .inFile path fault => path ++ ": " ++ fault.message
    | .encoding fault => "cannot encode constructor: " ++ fault.message

/-- A compiled contract. -/
structure Artifact where
  contractName : Option String
  abi : Abi
  creationCode : List UInt8
  runtimeCode : List UInt8
deriving DecidableEq, Repr

namespace Artifact

/-- The file that the artifact is read from unless another is set. -/
def defaultPath : String := "artifacts/contracts/X402Splitter.sol/X402Splitter.json"

/-- The name of the contract, which the artifact need not tell. -/
def name (a : Artifact) : String := a.contractName.getD SplitterLaunch.contractName

/-- Code as hexadecimal digits, after `0x` or `0X` or nothing. -/
def code? (s : String) : Option (List UInt8) :=
  match s.toList with
  | '0' :: 'x' :: cs => Hex.decode? cs
  | '0' :: 'X' :: cs => Hex.decode? cs
  | cs => Hex.decode? cs

/-- The value of a field. -/
inductive Part where
  | name (contractName : Option String)
  | interface (abi : Abi)
  | code (bytes : List UInt8)

/-- The fields of an artifact, in the order in which an array has them. -/
def fieldNames : List String := ["contractName", "abi", "bytecode", "deployedBytecode"]

def textOf? (written : List Char) : Option String := (Json.text? written).map String.ofList

/-- Reads a field. An interface's entries are inside two arrays or objects. -/
def readField (field : String) (source : Json.Source) : AbiReading Part :=
  if field = "contractName" then
    match source with
    | .null => .ok (.name none)
    | .string written => do return .name (some (← AbiReading.ofOption (textOf? written)))
    | _ => AbiReading.malformed
  else if field = "abi" then
    match source with
    | .array entries => do return .interface (← Abi.read 2 entries)
    | _ => AbiReading.malformed
  else
    match source with
    | .string written => do return .code (← AbiReading.ofOption ((textOf? written).bind code?))
    | _ => AbiReading.malformed

/-- The artifact that parts make up. Interface and creation code must be there. -/
def ofParts? (parts : List (String × Part)) : Option Artifact := do
  let contractName := match parts.lookup "contractName" with
    | some (.name contractName) => contractName
    | _ => none
  let abi ← match parts.lookup "abi" with
    | some (.interface abi) => some abi
    | _ => none
  let creationCode ← match parts.lookup "bytecode" with
    | some (.code bytes) => some bytes
    | _ => none
  let runtimeCode := match parts.lookup "deployedBytecode" with
    | some (.code bytes) => bytes
    | _ => []
  return { contractName, abi, creationCode, runtimeCode }

/-- The artifact that a value holds. Members that are not fields may hold anything. -/
def ofSource (source : Json.Source) : AbiReading Artifact := do
  let parts ← Json.readParts textOf? .malformed fieldNames readField source
  AbiReading.ofOption (ofParts? parts)

/-- The artifact that a text holds, which must have creation code. Of a text with a mistake all that comes
    before it is read, and can crash. -/
def read (s : String) : Outcome ArtifactFault Artifact := do
  let excerpt := Json.Excerpt.read 2 s.toList
  let artifact ← Outcome.mapReason (fun _ => .malformed) (AbiReading.ofOption excerpt.value >>= ofSource)
  if !excerpt.whole then .fail .malformed
  else if artifact.creationCode.isEmpty then .fail (.noCode artifact.name)
  else return artifact

def load (files : Files) (path : String) : Outcome ArtifactFault Artifact :=
  match files.readText path with
  | .error fault => .fail (.unreadable path fault)
  | .ok text => Outcome.mapReason (.inFile path) (read text)

/-- An address as an argument: the last twenty bytes of a word of 32. -/
def encodeAddress (a : Address) : List UInt8 := List.replicate 12 0 ++ a.bytes

/-- The data of a deployment with an administrator as its only argument. -/
def deploymentData (a : Artifact) (admin : Address) : Except EncodingFault (List UInt8) :=
  match a.abi.constructor with
  | none => .error .noConstructor
  | some inputs =>
    if inputs.map (·.type) = [.address] then .ok (a.creationCode ++ encodeAddress admin)
    else .error .wrongArguments

/-- The transaction that deploys the contract, for fee markets and with nothing but its data settled. -/
def deployment (a : Artifact) (admin : Address) : Except ArtifactFault Transaction :=
  match a.deploymentData admin with
  | .error fault => .error (.encoding fault)
  | .ok data => .ok { Transaction.blank (.feeMarket none none) with data := some data }

end Artifact
end SplitterLaunch
