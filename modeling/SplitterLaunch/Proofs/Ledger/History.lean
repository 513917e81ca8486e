import SplitterLaunch.Proofs.Codec.Record

/-! What a ledger answers after any number of deposits. A deposit writes one record and one latest deployment,
    under keys that never meet: chains have numerals for keys, and the key of the latest deployments is none.
    So the last deposit with a key decides what the key finds, and a key that no deposit had finds what it
    found before. -/

namespace SplitterLaunch
namespace Ledger

/-! ### One value put in -/

theorem putIn_get?_self (old : Option Json) (inner : String) (value : Json) :
    (putIn old inner value).get? inner = some value :=
  Json.Members.get?_insert_self _ _ _

theorem putIn_get?_of_ne {inner other : String} (h : other ≠ inner) (old : Option Json) (value : Json) :
    (putIn old inner value).get? other = old.bind fun j => j.members?.bind (Json.Members.get? other) := by
  unfold putIn
  rw [Json.Members.get?_insert_of_ne h]
  cases old with
  | none => rfl
  | some j => cases j <;> rfl

theorem inner?_putInner {l : Ledger} {outer inner : String} {value : Json} (hv : Json.isOrdered value = true)
    (outer' inner' : String) :
    (l.putInner outer inner value hv).inner? outer' inner' =
      if outer' = outer ∧ inner' = inner then some value else l.inner? outer' inner' := by
  show ((l.entries.insert outer (.object (putIn (l.entries.get? outer) inner value))).get? outer').bind _ = _
  by_cases ho : outer' = outer
  · subst ho
    rw [Json.Members.get?_insert_self]
    show (putIn (l.entries.get? outer') inner value).get? inner' = _
    by_cases hi : inner' = inner
    · subst hi
      rw [putIn_get?_self, if_pos ⟨rfl, rfl⟩]
    · rw [putIn_get?_of_ne hi, if_neg fun h => hi h.2]
      rfl
  · rw [Json.Members.get?_insert_of_ne ho, if_neg fun h => ho h.1]
    rfl

/-! ### Keys -/

theorem chainKey_injective {a b : UInt64} (h : chainKey a = chainKey b) : a = b :=
  UInt64.toNat_inj.mp (Numeral.decimal_injective (String.ofList_injective h))

/-- A numeral holds no underscore. -/
theorem chainKey_ne_latestKey (chainId : UInt64) : chainKey chainId ≠ latestKey := by
  intro h
  have hlist : Numeral.decimal chainId.toNat = ['_', 'l', 'a', 't', 'e', 's', 't'] := String.ofList_injective h
  have hdigit : Char.isDigit '_' = true :=
    Numeral.isDigit_of_mem_decimal (n := chainId.toNat) (hlist ▸ List.mem_cons_self)
  exact absurd hdigit (by decide)

/-! ### One deposit -/

/-- What one call puts into a ledger. -/
structure Deposit where
  chainId : UInt64
  contract : String
  record : DeploymentRecord
deriving DecidableEq, Repr

/-- The latest deployment that a deposit makes. -/
def Deposit.latest (d : Deposit) : LatestDeployment :=
  ⟨d.record.address, d.chainId, d.contract, d.record.deployedAt⟩

def deposit (l : Ledger) (d : Deposit) : Ledger := l.upsert d.chainId d.contract d.record

theorem inner?_deposit (l : Ledger) (d : Deposit) (outer inner : String) :
    (l.deposit d).inner? outer inner =
      if outer = chainKey d.chainId ∧ inner = d.contract then some (sorted d.record.members)
      else if outer = latestKey ∧ inner = d.record.networkName then some (sorted d.latest.members)
      else l.inner? outer inner := by
  show ((l.putInner latestKey d.record.networkName (sorted d.latest.members) (isOrdered_latest d.latest)).putInner
    (chainKey d.chainId) d.contract (sorted d.record.members) (isOrdered_record d.record)).inner? outer inner = _
  rw [inner?_putInner, inner?_putInner]

theorem get?_deposit {d : Deposit} (h : d.record.deployedAt.HasPlainYear) (l : Ledger) (chainId : UInt64)
    (contract : String) :
    (l.deposit d).get? chainId contract =
      if d.chainId = chainId ∧ d.contract = contract then some d.record else l.get? chainId contract := by
  unfold get?
  rw [inner?_deposit]
  by_cases hk : d.chainId = chainId ∧ d.contract = contract
  · obtain ⟨rfl, rfl⟩ := hk
    rw [if_pos ⟨rfl, rfl⟩, if_pos ⟨rfl, rfl⟩]
    exact DeploymentRecord.ofJson?_sorted h.inRange
  · have hne : ¬(chainKey chainId = chainKey d.chainId ∧ contract = d.contract) := fun ⟨hc, hk'⟩ =>
      hk ⟨(chainKey_injective hc).symm, hk'.symm⟩
    rw [if_neg hne, if_neg fun hl => chainKey_ne_latestKey chainId hl.1, if_neg hk]

theorem latest?_deposit {d : Deposit} (h : d.record.deployedAt.HasPlainYear) (l : Ledger) (network : String) :
    (l.deposit d).latest? network =
      if d.record.networkName = network then some d.latest else l.latest? network := by
  unfold latest?
  rw [inner?_deposit, if_neg fun hl => chainKey_ne_latestKey d.chainId hl.1.symm]
  by_cases hn : d.record.networkName = network
  · subst hn
    rw [if_pos ⟨rfl, rfl⟩, if_pos rfl]
    exact LatestDeployment.ofJson?_sorted (d := d.latest) h.inRange
  · rw [if_neg fun hl => hn hl.2.symm, if_neg hn]

/-! ### Any number of deposits -/

def depositAll (l : Ledger) (ds : List Deposit) : Ledger := ds.foldl deposit l

/-- A view that each deposit of a kind sets and all others leave alone shows what the last deposit of that kind
    has set. -/
theorem view_depositAll {α : Type} (view : Ledger → Option α) {kind : Deposit → Bool} {value : Deposit → α}
    {ds : List Deposit}
    (h : ∀ d ∈ ds, ∀ l : Ledger, view (l.deposit d) = if kind d = true then some (value d) else view l) (l : Ledger) :
    view (l.depositAll ds) = ((ds.reverse.find? kind).map value).or (view l) := by
  induction ds generalizing l with
  | nil => rfl
  | cons d ds ih =>
    show view ((l.deposit d).depositAll ds) = _
    rw [ih fun e he => h e (List.mem_cons_of_mem _ he), h d List.mem_cons_self, List.reverse_cons, List.find?_append]
    -- a later deposit of the kind hides this one
    cases ds.reverse.find? kind with
    | some e => rfl
    | none => cases hk : kind d <;> simp [hk]

/-- Of all deposits the last one for a chain and contract decides on their record, and the last one that names
    a network on its latest deployment; what no deposit wrote is as it was. -/
theorem answers_depositAll (l : Ledger) (ds : List Deposit) (h : ∀ d ∈ ds, d.record.deployedAt.HasPlainYear) :
    (∀ chainId contract, (l.depositAll ds).get? chainId contract =
      ((ds.reverse.find? fun d => d.chainId = chainId ∧ d.contract = contract).map Deposit.record).or
        (l.get? chainId contract)) ∧
    (∀ network, (l.depositAll ds).latest? network =
      ((ds.reverse.find? fun d => d.record.networkName = network).map Deposit.latest).or (l.latest? network)) := by
  constructor
  · intro chainId contract
    apply view_depositAll fun l => l.get? chainId contract
    intro d hd l
    simp only [get?_deposit (h d hd), decide_eq_true_eq]
  · intro network
    apply view_depositAll fun l => l.latest? network
    intro d hd l
    simp only [latest?_deposit (h d hd), decide_eq_true_eq]

/-- A record of a deployment at the start of 1970, of a contract with this address. -/
def plainRecord (networkName : String) (address : Address) : DeploymentRecord where
  address := address
  admin := .zero
  networkName := networkName
  chainId := 80002
  transaction := .zero
  blockNumber := none
  deployedAt := .epoch
  explorer := none
  constructorArguments := []
  note := none

/-- A contract is deployed again, and another chain between the two times; a third chain has no record. -/
theorem answers_depositAll_again :
    let ds : List Deposit := [⟨80002, "Splitter", plainRecord "amoy" (.fit 20 [1])⟩,
      ⟨137, "Splitter", plainRecord "polygon" (.fit 20 [2])⟩, ⟨80002, "Splitter", plainRecord "amoy" (.fit 20 [3])⟩]
    (∀ d ∈ ds, d.record.deployedAt.HasPlainYear) ∧
    (empty.depositAll ds).get? 80002 "Splitter" = some (plainRecord "amoy" (.fit 20 [3])) ∧
    (empty.depositAll ds).get? 6342 "Splitter" = none ∧
    (empty.depositAll ds).latest? "polygon" = some ⟨.fit 20 [2], 137, "Splitter", .epoch⟩ := by
  intro ds
  have hds : ∀ d ∈ ds, d.record.deployedAt.HasPlainYear := by
    intro d hd
    simp only [ds, List.mem_cons, List.not_mem_nil, or_false] at hd
    rcases hd with rfl | rfl | rfl <;> exact ⟨by decide, by decide⟩
  obtain ⟨hget, hlatest⟩ := answers_depositAll empty ds hds
  exact ⟨hds, (hget 80002 "Splitter").trans rfl, (hget 6342 "Splitter").trans rfl, (hlatest "polygon").trans rfl⟩

end Ledger
end SplitterLaunch
