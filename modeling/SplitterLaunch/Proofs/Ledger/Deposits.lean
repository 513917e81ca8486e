import SplitterLaunch.Proofs.Json.Members
import SplitterLaunch.Proofs.Ledger.History

/-! What a deposit changes of a ledger, whatever the ledger holds, and what becomes of two deposits. A deposit is two
    values put in, each as a member of a member. Values for different places can be put in in either order, so two
    deposits come to the same in both orders but for what they put into the same place. -/

namespace SplitterLaunch
namespace Ledger
variable {l : Ledger} {outer inner outer' inner' : String} {value value' : Json}

/-! ### Values put in -/

theorem get?_putInner (hv : Json.isOrdered value = true) (name : String) :
    (l.putInner outer inner value hv).entries.get? name =
      if name = outer then some (.object (putIn (l.entries.get? outer) inner value)) else l.entries.get? name :=
  Json.Members.get?_insert _ _ _ _

theorem get?_putInner_self (hv : Json.isOrdered value = true) :
    (l.putInner outer inner value hv).entries.get? outer =
      some (.object (putIn (l.entries.get? outer) inner value)) := by
  rw [get?_putInner, if_pos rfl]

theorem get?_putInner_of_ne (hv : Json.isOrdered value = true) {name : String} (h : name ≠ outer) :
    (l.putInner outer inner value hv).entries.get? name = l.entries.get? name := by
  rw [get?_putInner, if_neg h]

theorem mem_names_putInner (hv : Json.isOrdered value = true) {name : String} :
    name ∈ (l.putInner outer inner value hv).entries.map Prod.fst ↔ name = outer ∨ name ∈ l.entries.map Prod.fst :=
  Json.Members.mem_names_insert

theorem length_putInner_le (hv : Json.isOrdered value = true) :
    (l.putInner outer inner value hv).entries.length ≤ l.entries.length + 1 :=
  Json.Members.length_insert_le _ _ _

theorem putIn_object (members : Json.Members) (inner : String) (value : Json) :
    putIn (some (.object members)) inner value = members.insert inner value := rfl

/-- Of two values for one place the later one stays. -/
theorem putInner_putInner (hv : Json.isOrdered value = true) (hv' : Json.isOrdered value' = true) :
    (l.putInner outer inner value hv).putInner outer inner value' hv' = l.putInner outer inner value' hv' := by
  apply ext
  show Json.Members.insert outer _ (Json.Members.insert outer _ l.entries) = Json.Members.insert outer _ l.entries
  rw [get?_putInner_self, Json.Members.insert_insert, putIn_object, putIn, Json.Members.insert_insert]
  rfl

/-- Values for different places can be put in in either order, also when both displace the same value that is no
    object. -/
theorem putInner_comm (h : outer ≠ outer' ∨ inner ≠ inner') (hv : Json.isOrdered value = true)
    (hv' : Json.isOrdered value' = true) :
    (l.putInner outer inner value hv).putInner outer' inner' value' hv' =
      (l.putInner outer' inner' value' hv').putInner outer inner value hv := by
  apply ext
  show Json.Members.insert outer' _ (Json.Members.insert outer _ l.entries) =
    Json.Members.insert outer _ (Json.Members.insert outer' _ l.entries)
  by_cases ho : outer = outer'
  · subst ho
    have hi : inner ≠ inner' := h.resolve_left fun hne => hne rfl
    rw [get?_putInner_self, get?_putInner_self, Json.Members.insert_insert, Json.Members.insert_insert, putIn_object,
      putIn_object, putIn, Json.Members.insert_comm hi]
    rfl
  · rw [get?_putInner_of_ne hv (Ne.symm ho), get?_putInner_of_ne hv' ho, Json.Members.insert_comm ho]

/-- What becomes of the value under a name when a member is put into it. An object gets the member and keeps what its
    other names find, and anything else gives way to an object with this member alone. -/
inductive Takes (inner : String) (value : Json) : Option Json → Option Json → Prop
  | kept {members members' : Json.Members} (hself : members'.get? inner = some value)
      (hothers : ∀ name, name ≠ inner → members'.get? name = members.get? name)
      (hnames : ∀ name, name ∈ members'.map Prod.fst ↔ name = inner ∨ name ∈ members.map Prod.fst) :
      Takes inner value (some (.object members)) (some (.object members'))
  | displaced {old : Option Json} (h : ∀ members, old ≠ some (.object members)) :
      Takes inner value old (some (.object [(inner, value)]))

theorem takes_putIn (old : Option Json) (inner : String) (value : Json) :
    Takes inner value old (some (.object (putIn old inner value))) := by
  rcases old with _ | j
  · exact .displaced fun _ h => nomatch h
  · cases j with
    | object members =>
      exact .kept (putIn_get?_self _ _ _) (fun _ h => putIn_get?_of_ne h _ _) fun _ => Json.Members.mem_names_insert
    | _ => exact .displaced fun _ h => nomatch h

/-! ### What a deposit changes -/

def putLatest (l : Ledger) (d : Deposit) : Ledger :=
  l.putInner latestKey d.record.networkName (sorted d.latest.members) (isOrdered_latest d.latest)

def putRecord (l : Ledger) (d : Deposit) : Ledger :=
  l.putInner (chainKey d.chainId) d.contract (sorted d.record.members) (isOrdered_record d.record)

theorem deposit_eq (l : Ledger) (d : Deposit) : l.deposit d = (l.putLatest d).putRecord d := rfl

/-- What a deposit changes of a ledger: the values under the key of its chain and under the key of the latest
    deployments, with one member put into each, and nothing else. -/
structure Deposit.Changes (d : Deposit) (l l' : Ledger) : Prop where
  record : Takes d.contract (sorted d.record.members) (l.entries.get? (chainKey d.chainId))
    (l'.entries.get? (chainKey d.chainId))
  latest : Takes d.record.networkName (sorted d.latest.members) (l.entries.get? latestKey) (l'.entries.get? latestKey)
  others : ∀ name, name ≠ chainKey d.chainId → name ≠ latestKey → l'.entries.get? name = l.entries.get? name
  names : ∀ name, name ∈ l'.entries.map Prod.fst ↔
    name = chainKey d.chainId ∨ name = latestKey ∨ name ∈ l.entries.map Prod.fst
  size : l'.entries.length ≤ l.entries.length + 2

theorem changes_deposit (l : Ledger) (d : Deposit) : d.Changes l (l.deposit d) where
  record := by
    rw [deposit_eq, putRecord, get?_putInner_self, putLatest, get?_putInner_of_ne _ (chainKey_ne_latestKey d.chainId)]
    exact takes_putIn _ _ _
  latest := by
    rw [deposit_eq, putRecord, get?_putInner_of_ne _ (chainKey_ne_latestKey d.chainId).symm, putLatest,
      get?_putInner_self]
    exact takes_putIn _ _ _
  others name hchain hlatest := by
    rw [deposit_eq, putRecord, get?_putInner_of_ne _ hchain, putLatest, get?_putInner_of_ne _ hlatest]
  names name := by rw [deposit_eq, putRecord, mem_names_putInner, putLatest, mem_names_putInner]
  size := by
    have hrecord : (l.deposit d).entries.length ≤ (l.putLatest d).entries.length + 1 :=
      length_putInner_le (isOrdered_record d.record)
    have hlatest : (l.putLatest d).entries.length ≤ l.entries.length + 1 :=
      length_putInner_le (isOrdered_latest d.latest)
    omega

/-! ### Two deposits -/

theorem putLatest_putRecord (l : Ledger) (d e : Deposit) :
    (l.putRecord d).putLatest e = (l.putLatest e).putRecord d :=
  putInner_comm (.inl (chainKey_ne_latestKey d.chainId)) _ _

/-- Two deposits put in the latest deployments of both and then the records of both. -/
theorem deposit_deposit (l : Ledger) (d e : Deposit) :
    (l.deposit d).deposit e = (((l.putLatest d).putLatest e).putRecord d).putRecord e := by
  rw [deposit_eq, deposit_eq, putLatest_putRecord]

theorem putRecord_comm {d e : Deposit} (h : (d.chainId, d.contract) ≠ (e.chainId, e.contract)) (l : Ledger) :
    (l.putRecord d).putRecord e = (l.putRecord e).putRecord d := by
  apply putInner_comm
  by_cases hchain : d.chainId = e.chainId
  · exact .inr fun hcontract => h (Prod.ext hchain hcontract)
  · exact .inl fun hkey => hchain (chainKey_injective hkey)

/-- A deposit changes nothing but its two places, and made again it changes nothing. -/
theorem deposit_frame (l : Ledger) (d : Deposit) :
    d.Changes l (l.deposit d) ∧ (l.deposit d).deposit d = l.deposit d := by
  refine ⟨changes_deposit l d, ?_⟩
  calc (l.deposit d).deposit d
      = (((l.putLatest d).putLatest d).putRecord d).putRecord d := deposit_deposit l d d
    _ = ((l.putLatest d).putLatest d).putRecord d := putInner_putInner _ _
    _ = (l.putLatest d).putRecord d := congrArg (putRecord · d) (putInner_putInner _ _)

/-- Two ledgers with an object under a name that agree in everything but one member of this object. -/
structure AgreeBut (outer inner : String) (a b : Ledger) : Prop where
  others : ∀ name, name ≠ outer → a.entries.get? name = b.entries.get? name
  inside : ∃ members members' : Json.Members, a.entries.get? outer = some (.object members) ∧
    b.entries.get? outer = some (.object members') ∧ ∀ name, name ≠ inner → members.get? name = members'.get? name

theorem agreeBut_putInner (hv : Json.isOrdered value = true) (hv' : Json.isOrdered value' = true) :
    AgreeBut outer inner (l.putInner outer inner value hv) (l.putInner outer inner value' hv') where
  others name h := by rw [get?_putInner_of_ne hv h, get?_putInner_of_ne hv' h]
  inside := by
    refine ⟨_, _, get?_putInner_self hv, get?_putInner_self hv', fun name h => ?_⟩
    rw [putIn_get?_of_ne h, putIn_get?_of_ne h]

theorem AgreeBut.putInner {a b : Ledger} (h : AgreeBut outer inner a b) (hne : outer ≠ outer')
    (hv : Json.isOrdered value = true) :
    AgreeBut outer inner (a.putInner outer' inner' value hv) (b.putInner outer' inner' value hv) where
  others name hname := by
    rw [get?_putInner, get?_putInner, h.others name hname, h.others outer' hne.symm]
  inside := by
    rw [get?_putInner_of_ne hv hne, get?_putInner_of_ne hv hne]
    exact h.inside

theorem inner?_latest_deposit (l : Ledger) (d : Deposit) :
    (l.deposit d).inner? latestKey d.record.networkName = some (sorted d.latest.members) := by
  rw [inner?_deposit, if_neg fun hl => chainKey_ne_latestKey d.chainId hl.1.symm, if_pos ⟨rfl, rfl⟩]

/-- Deposits of different contracts, or on different chains, come to the same in both orders if they name different
    networks. If they name the same one, only the latest deployment on it tells the orders apart: it is that of the
    later deposit. -/
theorem deposit_comm {d e : Deposit} (h : (d.chainId, d.contract) ≠ (e.chainId, e.contract)) (l : Ledger) :
    (d.record.networkName ≠ e.record.networkName → (l.deposit d).deposit e = (l.deposit e).deposit d) ∧
    (d.record.networkName = e.record.networkName →
      AgreeBut latestKey d.record.networkName ((l.deposit d).deposit e) ((l.deposit e).deposit d) ∧
      ((l.deposit d).deposit e).inner? latestKey d.record.networkName = some (sorted e.latest.members) ∧
      ((l.deposit e).deposit d).inner? latestKey d.record.networkName = some (sorted d.latest.members)) := by
  -- both orders come to the records of `d` and `e` over the latest deployments
  have horder : (l.deposit e).deposit d = (((l.putLatest e).putLatest d).putRecord d).putRecord e := by
    rw [deposit_deposit, putRecord_comm h]
  constructor
  · intro hname
    have hlatest : (l.putLatest d).putLatest e = (l.putLatest e).putLatest d := putInner_comm (.inr hname) _ _
    rw [horder, deposit_deposit, hlatest]
  · intro hname
    refine ⟨?_, hname ▸ inner?_latest_deposit _ e, inner?_latest_deposit _ d⟩
    have hlatest : AgreeBut latestKey d.record.networkName ((l.putLatest d).putLatest e)
        ((l.putLatest e).putLatest d) := by
      have he : (l.putLatest d).putLatest e = l.putInner latestKey d.record.networkName (sorted e.latest.members)
          (isOrdered_latest e.latest) := by
        simp only [putLatest, hname, putInner_putInner]
      have hd : (l.putLatest e).putLatest d = l.putInner latestKey d.record.networkName (sorted d.latest.members)
          (isOrdered_latest d.latest) := by
        simp only [putLatest, ← hname, putInner_putInner]
      rw [he, hd]
      exact agreeBut_putInner _ _
    rw [horder, deposit_deposit]
    exact (hlatest.putInner (chainKey_ne_latestKey d.chainId).symm _).putInner (chainKey_ne_latestKey e.chainId).symm _

/-- A ledger whose entries for a chain and for the latest deployments are no objects. -/
def staleLedger : Ledger := ⟨[("80002", .string "stale"), ("_latest", .array [])], rfl⟩

/-- Deposits on two chains that displace such entries, under one name and under two. -/
theorem deposit_comm_stale :
    let d : Deposit := ⟨80002, "Splitter", plainRecord "amoy" (.fit 20 [1])⟩
    let e : Deposit := ⟨137, "Splitter", plainRecord "polygon" (.fit 20 [2])⟩
    let e' : Deposit := ⟨80002, "Factory", plainRecord "amoy" (.fit 20 [2])⟩
    (staleLedger.deposit d).deposit e = (staleLedger.deposit e).deposit d ∧
    (staleLedger.deposit d).deposit e' ≠ (staleLedger.deposit e').deposit d ∧
    ((staleLedger.deposit d).deposit e').inner? latestKey "amoy" = some (sorted e'.latest.members) := by
  intro d e e'
  have hname : d.record.networkName ≠ e.record.networkName := by decide
  obtain ⟨-, hlater, hearlier⟩ := (deposit_comm (d := d) (e := e') (by decide) staleLedger).2 rfl
  refine ⟨(deposit_comm (by decide) staleLedger).1 hname, fun hsame => ?_, hlater⟩
  rw [hsame, hearlier] at hlater
  have hread := congrArg (·.bind LatestDeployment.ofJson?) hlater
  exact absurd hread (by decide +kernel)

end Ledger
end SplitterLaunch
