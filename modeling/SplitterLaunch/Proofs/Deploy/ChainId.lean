import SplitterLaunch.Proofs.Codec.Record
import SplitterLaunch.Proofs.Deploy.Broadcast
import SplitterLaunch.Proofs.Deploy.Success

/-! The chain that a deployment is filed under. What the command signs, prints and records names the chain that
    the node told, and never the one that the network is listed with. Of the printed lines only those under three
    headings speak of a chain: the network's own, and the two with the pages at the chain's explorer. -/

namespace SplitterLaunch

/-! ### Explorers -/

namespace Explorer

/-- The sites of the chains that have an explorer. -/
def sites : List (UInt64 × Explorer) :=
  [(80002, "https://amoy.polygonscan.com"), (137, "https://polygonscan.com"), (6342, "https://megaexplorer.io")]

theorem ofChain?_eq_lookup (chainId : UInt64) : ofChain? chainId = sites.lookup chainId := by
  unfold ofChain? sites
  simp only [List.lookup_cons, List.lookup_nil, beq_eq_decide]
  split_ifs <;> simp_all

/-- None of the sites ends in a slash, so each begins its pages as it stands. -/
theorem base_of_lookup {chainId : UInt64} {site : Explorer} (h : sites.lookup chainId = some site) :
    base site = site := by
  rw [← ofChain?_eq_lookup] at h
  unfold ofChain? at h
  split_ifs at h <;> cases h <;> simp [base]

end Explorer

namespace Deploy
variable {settings : Settings} {network : Network} {w w' : World}

/-! ### Headings -/

/-- The lines that begin with a heading. -/
def headed (heading : String) (lines : List String) : List String :=
  lines.filter fun line => heading.toList.isPrefixOf line.toList

theorem headed_append (heading : String) (lines next : List String) :
    headed heading (lines ++ next) = headed heading lines ++ headed heading next := List.filter_append ..

/-- Whether lines tell a chain by its id, and the pages of a contract and its transaction at the chain's explorer, if
    it has one, and no other chain and no other pages. -/
structure Shows (network : Network) (chainId : UInt64) (contract : Address) (transaction : Hash) (lines : List String) :
    Prop where
  network : headed "Network" lines = ["Network   : " ++ network.name ++ " (chainId: " ++ toString chainId ++ ")"]
  contract : headed "Explorer" lines =
    (Explorer.sites.lookup chainId).toList.map fun site => "Explorer : " ++ site ++ "/address/" ++ contract.checksum
  transaction : headed "Tx" lines =
    (Explorer.sites.lookup chainId).toList.map fun site => "Tx       : " ++ site ++ "/tx/" ++ transaction.text

theorem headed_planLines (name : String) (chainId : UInt64) (admin : Address) (gasLimit : Option Quantity)
    (overrides : FeeOverrides) :
    headed "Network" (planLines name chainId admin gasLimit overrides) =
        ["Network   : " ++ name ++ " (chainId: " ++ toString chainId ++ ")"] ∧
      headed "Explorer" (planLines name chainId admin gasLimit overrides) = [] ∧
      headed "Tx" (planLines name chainId admin gasLimit overrides) = [] := by
  refine ⟨?_, ?_, ?_⟩ <;> simp [headed, planLines, rule]
  rfl

theorem headed_outcomeLines (d : Deployment) (chainId : UInt64) :
    headed "Network" (outcomeLines d (Explorer.ofChain? chainId)) = [] ∧
      headed "Explorer" (outcomeLines d (Explorer.ofChain? chainId)) =
        (Explorer.sites.lookup chainId).toList.map (fun site =>
          "Explorer : " ++ site ++ "/address/" ++ d.address.checksum) ∧
      headed "Tx" (outcomeLines d (Explorer.ofChain? chainId)) =
        (Explorer.sites.lookup chainId).toList.map fun site => "Tx       : " ++ site ++ "/tx/" ++ d.transaction.text := by
  rw [Explorer.ofChain?_eq_lookup]
  cases hsite : Explorer.sites.lookup chainId with
  | none => refine ⟨?_, ?_, ?_⟩ <;> simp [headed, outcomeLines]
  | some site =>
    have hbase := Explorer.base_of_lookup hsite
    refine ⟨?_, ?_, ?_⟩ <;>
      simp [headed, outcomeLines, Explorer.addressPage, Explorer.transactionPage, hbase, String.append_assoc]

theorem headed_closing {closing : List String} (h : Closing settings closing) :
    headed "Network" closing = [] ∧ headed "Explorer" closing = [] ∧ headed "Tx" closing = [] := by
  cases h with
  | unverified => refine ⟨?_, ?_, ?_⟩ <;> simp [headed]
  | verified verdict h => cases h <;> refine ⟨?_, ?_, ?_⟩ <;> simp [headed]

/-- All that a run prints that comes to recording the deployment. -/
theorem shows_lines {p : Preparation} {chainId : UInt64} {d : Deployment} {closing : List String}
    (h : Closing settings closing) :
    Shows network chainId d.address d.transaction
      (plan settings network p chainId ++ outcome d chainId ++ closing) := by
  -- each heading stands in one of the three parts alone
  obtain ⟨hnetwork, hplan, hplan'⟩ :=
    headed_planLines network.name chainId p.admin settings.gasLimit settings.overrides
  obtain ⟨houtcome, hcontract, htransaction⟩ := headed_outcomeLines d chainId
  obtain ⟨hclosing, hclosing', hclosing''⟩ := headed_closing h
  unfold plan outcome
  constructor
  case network => rw [headed_append, headed_append, hnetwork, houtcome, hclosing]; rfl
  case contract => rw [headed_append, headed_append, hplan, hcontract, hclosing', List.nil_append, List.append_nil]
  case transaction =>
    rw [headed_append, headed_append, hplan', htransaction, hclosing'', List.nil_append, List.append_nil]

/-! ### What is signed, printed and recorded -/

/-- Whether all that a run signed, printed and recorded is of the chain that the node told. -/
structure OfChain (settings : Settings) (network : Network) (w : World) (sent : List Exchange) (w' : World)
    (chainId : UInt64) (r : DeploymentRecord) : Prop where
  told : TellsChain chainId sent
  broadcast : ∃ tx signer reply, (⟨.broadcast tx signer, reply⟩ : Exchange) ∈ sent
  signed : ∀ tx signer reply, (⟨.broadcast tx signer, reply⟩ : Exchange) ∈ sent → tx.chainId = some chainId
  printed : ∃ lines, w'.printed = (w.saying lines).printed ∧ Shows network chainId r.address r.transaction lines
  chain : r.chainId = chainId
  explorer : r.explorer = Explorer.sites.lookup chainId
  record : (Ledger.load w'.disk.files settings.ledgerPath).inner? (toString chainId) contractName =
    some (Ledger.sorted r.members)
  /-- The record's value has the id, and the explorer's site or null. -/
  stored : (Ledger.sorted r.members).member? "chainId" = some (Json.ofUInt64 chainId) ∧
    (Ledger.sorted r.members).member? "explorer" =
      some (Json.ofOption .string (Explorer.sites.lookup chainId))
  latest : ∃ latest : LatestDeployment, latest.chainId = chainId ∧
    (Ledger.load w'.disk.files settings.ledgerPath).inner? "_latest" network.name =
      some (Ledger.sorted latest.members) ∧
    (Ledger.sorted latest.members).member? "chainId" = some (Json.ofUInt64 chainId)

theorem Ends.ofChain (h : Ends settings network w (.ok ()) w') :
    ∃ sent chainId r, w'.exchanges = sent ++ w.exchanges ∧ OfChain settings network w sent w' chainId r := by
  cases h with
  | recorded p chainId first sent checks d ledger disk closing hopen hran hupsert hchecks hclosing =>
    have htells := hopen.tells hran.timed hchecks
    have hbroadcasts := hopen.broadcasts hran.toSubmits hchecks
    obtain ⟨l, htold, -⟩ := (hran.landed d).mp rfl
    let r := recordOf network p chainId d w.now
    let deposit : Ledger.Deposit := ⟨chainId, contractName, r⟩
    have hholds : Ledger.Holds settings.ledgerPath disk.files deposit := Ledger.holds_of_upsertFile hupsert
    have hmember := Json.Members.get?_ofList r.nodup_members
    refine ⟨checks ++ (sent ++ first), chainId, r, rfl, ?_⟩
    constructor
    case told => exact htells
    case broadcast =>
      obtain ⟨⟨request, reply⟩, he, rfl, -⟩ := htold.broadcast
      exact ⟨_, _, reply, List.mem_append_right _ (List.mem_append_left _ he)⟩
    case signed =>
      intro tx signer reply he
      obtain ⟨p', chainId', -, htells', -, -, hchain⟩ := hbroadcasts.backed tx signer reply he
      rw [hchain, htells.unique htells']
    case printed => exact ⟨_, rfl, shows_lines hclosing⟩
    case chain => rfl
    case explorer => exact Explorer.ofChain?_eq_lookup chainId
    case record => exact hholds.record
    case stored =>
      rw [← Explorer.ofChain?_eq_lookup]
      exact ⟨hmember "chainId", hmember "explorer"⟩
    case latest =>
      exact ⟨deposit.latest, rfl, hholds.latest, Json.Members.get?_ofList deposit.latest.nodup_members "chainId"⟩

/-- What a successful run signs, prints and records is of one chain, the one that the node told; the one that
    the network is listed with makes no difference to any run. -/
theorem run_ofChain (settings : Settings) (network : Network) (w : World)
    (h : ((run settings network).run w).1 = .ok ()) :
    (∃ sent chainId r, ((run settings network).run w).2.exchanges = sent ++ w.exchanges ∧
      OfChain settings network w sent ((run settings network).run w).2 chainId r) ∧
    ∀ listed explorer, run settings { network with chainId := listed, explorer := explorer } = run settings network := by
  refine ⟨?_, fun listed explorer => rfl⟩
  have hends := run_ends settings network w
  rw [h] at hends
  exact hends.ofChain

/-- A run on a node of Polygon, over a network that is listed with the chain id of Amoy. -/
theorem run_ofChain_stray : ((run plainSettings strayNetwork).run strayWorld).1 = .ok () ∧
    ∃ sent chainId r, ((run plainSettings strayNetwork).run strayWorld).2.exchanges = sent ++ strayWorld.exchanges ∧
      OfChain plainSettings strayNetwork strayWorld sent ((run plainSettings strayNetwork).run strayWorld).2 chainId r :=
  ⟨run_stray_eq_ok, (run_ofChain plainSettings strayNetwork strayWorld run_stray_eq_ok).1⟩

end Deploy
end SplitterLaunch
