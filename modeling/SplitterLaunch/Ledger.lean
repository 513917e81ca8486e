import SplitterLaunch.Json.Ordered
import SplitterLaunch.Ledger.Record

/-! The ledger of deployments: an object with a member for each chain, under which the contracts have their
    records, and one member with the latest deployment on each network. It is held as raw JSON, so that what
    other programs keep in it stays as it was when a record is put in. -/

namespace SplitterLaunch

/-- The entries of a ledger, with the members of all objects in order. -/
structure Ledger where
  entries : Json.Members
  ordered : Json.isOrdered (.object entries) = true

namespace Ledger

theorem ext {a b : Ledger} (h : a.entries = b.entries) : a = b := by
  cases a; cases b; simp_all

def empty : Ledger := ⟨[], rfl⟩

def isEmpty (l : Ledger) : Bool := l.entries.isEmpty

/-- The ledger that a value holds, which must be an object. -/
def ofJson? (j : Json) : Option Ledger :=
  match j with
  | .object entries => if h : Json.isOrdered (.object entries) = true then some ⟨entries, h⟩ else none
  | _ => none

def read? (s : String) : Option Ledger := (Json.read? s.toList).bind ofJson?

def toJson (l : Ledger) : Json := .object l.entries

def latestKey : String := "_latest"

def chainKey (chainId : UInt64) : String := String.ofList (Numeral.decimal chainId.toNat)

def inner? (l : Ledger) (outer inner : String) : Option Json :=
  (l.entries.get? outer).bind fun j => j.members?.bind (Json.Members.get? inner)

/-- The record of a contract on a chain, if there is one that can be read. -/
def get? (l : Ledger) (chainId : UInt64) (contract : String) : Option DeploymentRecord :=
  (l.inner? (chainKey chainId) contract).bind DeploymentRecord.ofJson?

/-- The latest deployment on a network, if there is one that can be read. -/
def latest? (l : Ledger) (network : String) : Option LatestDeployment :=
  (l.inner? latestKey network).bind LatestDeployment.ofJson?

/-- The members of an object with one put in; anything but an object counts as an object without members. -/
def putIn (old : Option Json) (inner : String) (value : Json) : Json.Members :=
  Json.Members.insert inner value ((old.bind Json.Tree.members?).getD [])

theorem isOrderedMembers_putIn {old : Option Json} {inner : String} {value : Json}
    (hold : ∀ j ∈ old, Json.isOrdered j = true) (hv : Json.isOrdered value = true) :
    Json.isOrderedMembers (putIn old inner value) = true := by
  apply Json.isOrderedMembers_insert hv
  cases old with
  | none => rfl
  | some j =>
    have hj := hold j rfl
    cases j with
    | object ms => exact hj
    | _ => rfl

/-- The ledger with a value put in as a member of a member. -/
def putInner (l : Ledger) (outer inner : String) (value : Json) (hv : Json.isOrdered value = true) : Ledger where
  entries := l.entries.insert outer (.object (putIn (l.entries.get? outer) inner value))
  ordered := Json.isOrderedMembers_insert
    (isOrderedMembers_putIn (fun _ h => Json.isOrdered_of_get? l.ordered h) hv) l.ordered

def sorted (members : Json.Members) : Json := .object (Json.Members.ofList members)

theorem isOrdered_record (r : DeploymentRecord) : Json.isOrdered (sorted r.members) = true := by
  apply Json.isOrderedMembers_ofList
  have hoption {α : Type} (f : α → Json) (hf : ∀ x, Json.isOrdered (f x) = true) (o : Option α) :
      Json.isOrdered (Json.ofOption f o) = true := by cases o <;> simp [Json.ofOption, hf, Json.isOrdered]
  have hitems (xs : List String) : Json.isOrderedItems (xs.map .string) = true := by
    induction xs with
    | nil => rfl
    | cons x xs ih => simpa [Json.isOrderedItems, Json.isOrdered] using ih
  intro m hm
  simp only [DeploymentRecord.members, List.mem_append, List.mem_cons, List.not_mem_nil, or_false] at hm
  rcases hm with (rfl | rfl | rfl | rfl | rfl | rfl | rfl | rfl | rfl) | hm
  · rfl
  · rfl
  · rfl
  · rfl
  · rfl
  · exact hoption _ (fun _ => rfl) _
  · rfl
  · exact hoption _ (fun _ => rfl) _
  · exact hitems _
  · split at hm
    · simp only [List.mem_singleton] at hm
      subst hm
      rfl
    · simp at hm

theorem isOrdered_latest (d : LatestDeployment) : Json.isOrdered (sorted d.members) = true := by
  apply Json.isOrderedMembers_ofList
  intro m hm
  simp only [LatestDeployment.members, List.mem_cons, List.not_mem_nil, or_false] at hm
  rcases hm with rfl | rfl | rfl | rfl <;> rfl

/-- The ledger after a deployment: its record under the chain and the contract, and the latest deployment
    under the network that the record names. -/
def upsert (l : Ledger) (chainId : UInt64) (contract : String) (r : DeploymentRecord) : Ledger :=
  let latest : LatestDeployment := ⟨r.address, chainId, contract, r.deployedAt⟩
  (l.putInner latestKey r.networkName (sorted latest.members) (isOrdered_latest latest)).putInner
    (chainKey chainId) contract (sorted r.members) (isOrdered_record r)

def fileText (l : Ledger) : String := l.toJson.pretty ++ "\n"

end Ledger
end SplitterLaunch
