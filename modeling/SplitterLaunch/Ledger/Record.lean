import SplitterLaunch.Json.Decode
import SplitterLaunch.Time.Text

/-! What is recorded of a deployment: a record of each contract on each chain, and for each network the
    latest deployment on it. Both have a JSON form with the fields in a fixed order. -/

namespace SplitterLaunch

/-- A completed deployment of a contract. -/
structure DeploymentRecord where
  address : Address
  admin : Address
  networkName : String
  chainId : UInt64
  transaction : Hash
  blockNumber : Option UInt64
  deployedAt : Timestamp
  explorer : Option String
  constructorArguments : List String
  note : Option String
deriving DecidableEq, Repr

/-- The latest deployment on a network. -/
structure LatestDeployment where
  address : Address
  chainId : UInt64
  contract : String
  updatedAt : Timestamp
deriving DecidableEq, Repr

def Timestamp.toJson (t : Timestamp) : Json := .string t.text

def Timestamp.ofJson? (j : Json) : Option Timestamp := j.asString?.bind fun s => read? s.toList

namespace DeploymentRecord

/-- The members of a record's JSON. A note that is missing has none. -/
def members (r : DeploymentRecord) : Json.Members :=
  [("address", r.address.toJson),
   ("admin", r.admin.toJson),
   ("networkName", .string r.networkName),
   ("chainId", Json.ofUInt64 r.chainId),
   ("deployTx", r.transaction.toJson),
   ("blockNumber", Json.ofOption Json.ofUInt64 r.blockNumber),
   ("deployedAt", r.deployedAt.toJson),
   ("explorer", Json.ofOption .string r.explorer),
   ("constructorArgs", .array (r.constructorArguments.map .string))]
    ++ match r.note with
       | some note => [("implementationNote", .string note)]
       | none => []

def toJson (r : DeploymentRecord) : Json := .object r.members

def ofJson? (j : Json) : Option DeploymentRecord := do
  let f ← j.fields?
  let address ← f.required? 0 "address" (Json.asFixedBytes? 20)
  let admin ← f.required? 1 "admin" (Json.asFixedBytes? 20)
  let networkName ← f.required? 2 "networkName" Json.asString?
  let chainId ← f.required? 3 "chainId" Json.asUInt64?
  let transaction ← f.required? 4 "deployTx" (Json.asFixedBytes? 32)
  let blockNumber ← f.nullable? 5 "blockNumber" Json.asUInt64?
  let deployedAt ← f.required? 6 "deployedAt" Timestamp.ofJson?
  let explorer ← f.nullable? 7 "explorer" Json.asString?
  let constructorArguments ← f.required? 8 "constructorArgs" Json.asStrings?
  let note ← f.optional? 9 "implementationNote" Json.asString?
  if f.fits 10 then
    return { address, admin, networkName, chainId, transaction, blockNumber, deployedAt, explorer,
             constructorArguments, note }
  else none

end DeploymentRecord

namespace LatestDeployment

def members (l : LatestDeployment) : Json.Members :=
  [("address", l.address.toJson),
   ("chainId", Json.ofUInt64 l.chainId),
   ("contract", .string l.contract),
   ("updatedAt", l.updatedAt.toJson)]

def toJson (l : LatestDeployment) : Json := .object l.members

def ofJson? (j : Json) : Option LatestDeployment := do
  let f ← j.fields?
  let address ← f.required? 0 "address" (Json.asFixedBytes? 20)
  let chainId ← f.required? 1 "chainId" Json.asUInt64?
  let contract ← f.required? 2 "contract" Json.asString?
  let updatedAt ← f.required? 3 "updatedAt" Timestamp.ofJson?
  if f.fits 4 then return { address, chainId, contract, updatedAt } else none

end LatestDeployment
end SplitterLaunch
