import SplitterLaunch.Proofs.Deploy.Recorded
import SplitterLaunch.Proofs.Session.Replies

/-! Deployments that succeed. Against a node that serves every request, the deploy command broadcasts its
    transaction, waits for the receipt and puts in the record: it succeeds as soon as the record can be put in. -/

namespace SplitterLaunch
variable {α : Type} {node : Node} {request : Request} {decode : Json.Source → Option α} {P : α → Prop}

/-! ### Requests that are served -/

/-- Whether a node answers a request with a result as a condition says, whatever was asked before. -/
def Node.Gives (node : Node) (request : Request) (decode : Json.Source → Option α) (P : α → Prop) : Prop :=
  ∀ before, ∃ x, Rpc.result? decode (node.reply before request) = some x ∧ P x

theorem Connection.succeeds_request {c : Connection} (hurl : c.url.TakesRequests) (h : node.Gives request decode P) :
    Run.Succeeds node (c.request request decode) fun outcome => ∃ x, outcome = .ok x ∧ P x := by
  rintro w rfl
  obtain ⟨x, hx, hP⟩ := h w.exchanges
  exact ⟨[⟨request, w.reply request⟩], .ok x, c.run_request_of_result? hurl hx, x, rfl, hP⟩

theorem Connection.succeeds_call {c : Connection} (hurl : c.url.TakesRequests) (h : node.Gives request decode P) :
    Run.Succeeds node (c.call request decode) P := by
  unfold Connection.call
  refine (succeeds_request hurl h).bind ?_
  rintro _ ⟨x, rfl, hx⟩
  exact Run.succeeds_pure hx

namespace Session
variable {s : Session} (hurl : s.connection.url.TakesRequests)
include hurl

theorem succeeds_attempt (h : node.Gives request decode P) :
    Run.Succeeds node (s.attempt request decode) fun outcome => ∃ x, outcome = .ok x ∧ P x := by
  unfold attempt
  refine (Connection.succeeds_request hurl h).bind ?_
  rintro _ ⟨x, rfl, hx⟩
  exact Run.succeeds_pure ⟨x, rfl, hx⟩

theorem succeeds_call (h : node.Gives request decode P) : Run.Succeeds node (s.call request decode) P := by
  unfold call
  refine (succeeds_attempt hurl h).bind ?_
  rintro _ ⟨x, rfl, hx⟩
  exact Run.succeeds_pure hx

end Session

/-- Whether a node serves deployments on a chain: it tells the chain and whatever settles a transaction, gives the
    hash to what is broadcast, and has it in a block, with the receipt and its confirmations. -/
structure Node.Serves (node : Node) (chainId : UInt64) (confirmations : UInt64) (hash : Hash) (receipt : Rpc.Receipt) :
    Prop where
  chain : node.Gives .chainId Connection.decodeQuantity fun id => id.toNat = chainId.toNat
  count : ∀ account, node.Gives (.transactionCount account) Connection.decodeQuantity fun _ => True
  price : node.Gives .gasPrice Connection.decodeQuantity fun _ => True
  fees : ∃ baseFee : Quantity,
    (node.Gives .latestBlock Connection.decodeBlock fun found => ∃ block, found = some block ∧ block.baseFee = some baseFee) ∧
      node.Gives (.feeHistory true) Session.decodeRewards fun rewards => (FeeMarket.fees? baseFee rewards).isSome = true
  gas : ∀ tx, node.Gives (.estimateGas tx) Connection.decodeQuantity fun _ => True
  broadcast : ∀ tx signer, node.Gives (.broadcast tx signer) Session.decodeHash (· = hash)
  mined : node.Gives (.transaction hash) Session.decodeTransaction fun found =>
    ∃ tx, found = some tx ∧ tx.blockNumber.isSome = true
  landed : node.Gives (.receipt hash) Session.decodeReceipt (· = some receipt)
  confirmed : 1 < confirmations →
    node.Gives .blockNumber Session.decodeBlockNumber fun latest => receipt.ConfirmedBy confirmations latest

namespace Session
variable {s : Session} {chainId confirmations : UInt64} {hash : Hash} {receipt : Rpc.Receipt}

section
variable (hurl : s.connection.url.TakesRequests) (hnode : node.Serves chainId confirmations hash receipt)
include hurl hnode

theorem succeeds_estimatedFees : Run.Succeeds node s.estimatedFees fun _ => True := by
  obtain ⟨base, hblock, hhistory⟩ := hnode.fees
  have hbase : Run.Succeeds node s.baseFee (· = base) := by
    unfold baseFee
    refine (succeeds_call hurl hblock).bind ?_
    rintro _ ⟨block, rfl, hfee⟩
    dsimp only
    rw [hfee]
    exact Run.succeeds_pure rfl
  have hrewards : Run.Succeeds node s.rewards fun rewards => (FeeMarket.fees? base rewards).isSome = true := by
    unfold rewards
    refine (succeeds_attempt hurl hhistory).bind ?_
    rintro _ ⟨rewards, rfl, hfees⟩
    exact Run.succeeds_pure hfees
  unfold estimatedFees
  refine hbase.bind ?_
  rintro _ rfl
  refine hrewards.bind fun rewards hfees => ?_
  obtain ⟨fees, hfees⟩ := Option.isSome_iff_exists.mp hfees
  rw [hfees]
  exact Run.succeeds_pure trivial

theorem succeeds_settlePricing (pricing : Pricing) : Run.Succeeds node (s.settlePricing pricing) fun _ => True := by
  unfold settlePricing
  split
  · exact Run.succeeds_pure trivial
  · exact (succeeds_call hurl hnode.price).bind fun _ _ => Run.succeeds_pure trivial
  · exact Run.succeeds_pure trivial
  · exact (succeeds_call hurl hnode.price).bind fun _ _ => Run.succeeds_pure trivial
  · exact Run.succeeds_pure trivial
  · exact (succeeds_estimatedFees hurl hnode).bind fun _ _ => Run.succeeds_pure trivial

theorem succeeds_send (signer : Signer) (tx : Transaction) : Run.Succeeds node (s.send signer tx) (· = hash) := by
  have hsettle : Run.Succeeds node (s.settle signer tx) fun _ => True := by
    unfold settle
    refine (succeeds_call hurl (hnode.count signer.address)).bind fun nonce _ => ?_
    refine (succeeds_settlePricing hurl hnode _).bind fun pricing _ => ?_
    dsimp only
    split
    · exact Run.succeeds_pure trivial
    · exact (succeeds_call hurl (hnode.gas _)).bind fun _ _ => Run.succeeds_pure trivial
  unfold send
  exact hsettle.bind fun settled _ => succeeds_call hurl (hnode.broadcast settled signer.address)

/-- A transaction that is in its block is awaited with three looks. -/
theorem succeeds_await (h : 3 ≤ s.timeout) : Run.Succeeds node (s.await hash confirmations) (· = some receipt) := by
  obtain ⟨looks, hlooks⟩ : ∃ looks, s.looks = looks + 3 := ⟨s.timeout - 3, by unfold Session.looks; omega⟩
  have hblock : Run.Succeeds node (s.awaitBlock hash s.looks patience) (· = some (looks + 2)) := by
    rw [hlooks, awaitBlock]
    refine (succeeds_attempt hurl hnode.mined).bind ?_
    rintro _ ⟨_, rfl, tx, rfl, hmined⟩
    dsimp only
    rw [if_pos hmined]
    exact Run.succeeds_pure rfl
  have hreceipt : Run.Succeeds node (s.awaitReceipt hash (looks + 2)) (· = (receipt, looks + 1)) := by
    rw [awaitReceipt]
    refine (succeeds_attempt hurl hnode.landed).bind ?_
    rintro _ ⟨_, rfl, rfl⟩
    exact Run.succeeds_pure rfl
  unfold await
  refine hblock.bind ?_
  rintro _ rfl
  refine hreceipt.bind ?_
  rintro _ rfl
  dsimp only
  split
  · rename_i hmore
    have hone : 1 ≤ confirmations := UInt64.le_of_lt hmore
    rw [awaitConfirmations]
    refine Run.Succeeds.bind (P := fun _ => True) ?_ fun _ _ => Run.succeeds_pure rfl
    refine (succeeds_attempt hurl (hnode.confirmed hmore)).bind ?_
    rintro _ ⟨latest, rfl, hconfirmed⟩
    rw [Run.require_ok_bind, (isConfirmed?_eq_some_true_iff receipt latest hone).mpr hconfirmed]
    exact Run.succeeds_pure trivial
  · exact Run.succeeds_pure rfl

end

end Session

namespace Deployment
variable {connection : Connection} {artifact : Artifact} {chainId : UInt64} {hash : Hash} {receipt : Rpc.Receipt}
  {contract : Address}

theorem succeeds_run (signer : Signer) (request : DeployRequest) (hurl : connection.url.TakesRequests)
    (hnode : node.Serves chainId request.confirmations hash receipt) {data : List UInt8}
    (hdata : artifact.deploymentData request.admin = .ok data) (htimeout : 3 ≤ request.timeout)
    (hstatus : receipt.status = some 1) (hcontract : receipt.contract = some contract) :
    Run.Succeeds node (run connection signer artifact request)
      (· = ⟨contract, receipt.transaction, receipt.blockNumber, signer.address⟩) := by
  have htx : artifact.deployment request.admin = .ok { Transaction.blank (.feeMarket none none) with data := some data } := by
    unfold Artifact.deployment
    rw [hdata]
  have hreceipt : ofReceipt signer.address receipt =
      .ok ⟨contract, receipt.transaction, receipt.blockNumber, signer.address⟩ :=
    ofReceipt_eq_ok_iff.mpr ⟨hstatus, contract, hcontract, rfl⟩
  unfold run
  rw [htx, Run.require_ok_bind]
  refine (Session.succeeds_send (s := ⟨connection, request.timeout⟩) hurl hnode signer _).bind ?_
  rintro _ rfl
  refine (Session.succeeds_await (s := ⟨connection, request.timeout⟩) hurl hnode htimeout).bind ?_
  rintro _ rfl
  dsimp only
  rw [hreceipt]
  exact Run.succeeds_pure rfl

end Deployment

theorem Connection.succeeds_chainId {c : Connection} {chainId confirmations : UInt64} {hash : Hash} {receipt : Rpc.Receipt}
    (hurl : c.url.TakesRequests) (hnode : node.Serves chainId confirmations hash receipt) :
    Run.Succeeds node c.chainId (· = chainId) := by
  unfold Connection.chainId
  refine (succeeds_call hurl hnode.chain).bind fun id hid => ?_
  have hsize : id.toNat < UInt64.size := hid ▸ chainId.toNat_lt
  rw [if_pos hsize]
  exact Run.succeeds_pure (UInt64.toNat_inj.mp ((UInt64.toNat_ofNat_of_lt hsize).trans hid))

namespace Deploy
variable {settings : Settings} {network : Network} {w : World} {p : Preparation}

/-- Against a node that serves deployments the command succeeds, once the record can be put in. -/
theorem run_eq_ok {chainId : UInt64} {l : Landing} {data : List UInt8} (hp : p.IsOf settings network w.disk.files)
    (hurl : p.connection.url.TakesRequests) (hnode : w.node.Serves chainId settings.confirmations l.hash l.receipt)
    (hdata : p.artifact.deploymentData p.admin = .ok data) (htimeout : 0 < settings.deployTimeout)
    (hstatus : l.receipt.status = some 1) (hcontract : l.receipt.contract = some l.contract)
    (hput : (put settings network w p chainId l).1.isOk = true) : ((run settings network).run w).1 = .ok () := by
  have hlooks : 3 ≤ (p.request settings).timeout := by
    have : 0 < settings.deployTimeout.toNat := htimeout
    show 3 ≤ settings.deployTimeout.toNat * 1000
    omega
  rw [run_of_isOf hp]
  unfold proceed
  obtain ⟨first, id, hfirst, hid⟩ := Connection.succeeds_chainId hurl hnode w rfl
  rw [show id = chainId from hid] at hfirst
  rw [Run.run_bind_of_ok hfirst, Run.run_bind_of_ok (Run.run_printAll _)]
  obtain ⟨sent, d, hsent, rfl⟩ := Deployment.succeeds_run ⟨p.key, chainId⟩ (p.request settings) hurl hnode hdata hlooks
    hstatus hcontract ((w.after first).saying (plan settings network p chainId)) rfl
  rw [Run.run_bind_of_ok hsent, Run.run_bind_of_ok (Run.run_printAll _)]
  unfold put at hput
  cases hupsert : Ledger.upsertFile settings.ledgerPath chainId contractName
    (recordOf network p chainId (l.deployment p.key.address) w.now) w.disk with
  | mk result disk =>
  rw [hupsert] at hput
  cases result with
  | error fault => cases hput
  | ok ledger =>
    let later := ((w.after first).saying (plan settings network p chainId)).after sent
    let printed := outcome (l.deployment p.key.address) chainId
    obtain ⟨checks, closing, -, -, hrun⟩ := run_finish_of_ok (w := later.saying printed) hupsert
    exact congrArg Prod.fst hrun

/-! ### A run that succeeds -/

/-- What a node of Polygon gives on each request. All transactions have the hash zero, and are in a block. -/
def polygonResult : Request → Json
  | .chainId => .string "0x89"
  | .latestBlock => .object [("baseFeePerGas", .string "0x1")]
  | .feeHistory _ => .object [("baseFeePerGas", .array []), ("gasUsedRatio", .array []), ("oldestBlock", .string "0x1")]
  | .broadcast _ _ => (FixedBytes.zero : Hash).toJson
  | .transaction hash => .object [("blockNumber", .string "0x1"), ("gas", .string "0x1"), ("hash", hash.toJson),
      ("input", .string "0x"), ("nonce", .string "0x1"), ("r", .string "0x1"), ("s", .string "0x1"), ("v", .string "0x1"),
      ("value", .string "0x0")]
  | .receipt hash => .object [("blockNumber", .string "0x1"), ("contractAddress", (FixedBytes.zero : Address).toJson),
      ("cumulativeGasUsed", .string "0x1"), ("from", (FixedBytes.zero : Address).toJson), ("logs", .array []),
      ("logsBloom", (FixedBytes.zero : FixedBytes 256).toJson), ("status", .string "0x1"),
      ("transactionHash", hash.toJson), ("transactionIndex", .string "0x0")]
  | _ => .string "0x1"

def polygon : Node := ⟨fun _ request => Rpc.answer (polygonResult request)⟩

section
variable {decode : Json.Source → Option α} {read : Json → Option α} {x : α} {s : Rpc.Shape}
  (hdecode : ∀ source, decode source = (Rpc.json? s source).bind read)
include hdecode

theorem polygon_gives (hordered : Json.isOrdered (polygonResult request) = true)
    (hplain : (polygonResult request).IsPlain Json.maxDepth) (hread : read (polygonResult request) = some x) (hP : P x) :
    polygon.Gives request decode P := by
  intro before
  exact ⟨x, Rpc.result?_answer_of_read hdecode hordered hplain hread, hP⟩

theorem polygon_gives_text {text : String} (hresult : polygonResult request = .string text)
    (hread : read (.string text) = some x) (hP : P x) : polygon.Gives request decode P :=
  polygon_gives hdecode (hresult ▸ rfl) (hresult ▸ ⟨rfl, Nat.zero_le _⟩) (hresult ▸ hread) hP

end

def polygonReceipt : Rpc.Receipt := ⟨.zero, some 1, some .zero, some 1⟩

theorem receipt?_polygonResult : Rpc.receipt? (polygonResult (.receipt .zero)) = some polygonReceipt := by
  -- The bloom is long: it is read by its own law and not by evaluation.
  have hbloom : Rpc.Field.holds (polygonResult (.receipt .zero)) ⟨"logsBloom", .bloom, .required⟩ = true := by
    show (Json.asFixedBytes? 256 (FixedBytes.zero : FixedBytes 256).toJson).isSome = true
    rw [Json.asFixedBytes?_toJson]
    rfl
  have hfields : ∀ f ∈ Rpc.receiptFields,
      f = ⟨"logsBloom", .bloom, .required⟩ ∨ Rpc.Field.holds (polygonResult (.receipt .zero)) f = true := by
    decide +kernel
  have hobject : Rpc.isObjectOf Rpc.receiptFields (polygonResult (.receipt .zero)) = true := by
    unfold Rpc.isObjectOf
    rw [Bool.and_eq_true, List.all_eq_true]
    exact ⟨rfl, fun f hf => (hfields f hf).elim (fun h => h ▸ hbloom) id⟩
  have hlogs : Rpc.hasItemsOf Rpc.logFields "logs" (polygonResult (.receipt .zero)) = true := by decide +kernel
  unfold Rpc.receipt?
  rw [hobject, hlogs]
  decide +kernel

theorem serves_polygon : polygon.Serves 137 1 .zero polygonReceipt := by
  have hone : Rpc.quantity? (.string "0x1") = some ⟨1, by decide⟩ := by decide +kernel
  have hid : Rpc.quantity? (.string "0x89") = some ⟨137, by decide⟩ := by decide +kernel
  have hblock : Json.asNullable? Rpc.block? (polygonResult .latestBlock) = some (some ⟨some ⟨1, by decide⟩⟩) := by
    decide +kernel
  have hrewards : Rpc.rewards? (polygonResult (.feeHistory true)) = some [] := by decide +kernel
  have hmined : Json.asNullable? Rpc.sentTransaction? (polygonResult (.transaction .zero)) = some (some ⟨some 1⟩) := by
    decide +kernel
  have hlanded : (Rpc.receipt? (polygonResult (.receipt .zero))).map some = some (some polygonReceipt) := by
    rw [receipt?_polygonResult, Option.map_some]
  have hblocks : (polygonResult .latestBlock).IsPlain Json.maxDepth := ⟨by decide +kernel, by decide +kernel⟩
  have hfees : (polygonResult (.feeHistory true)).IsPlain Json.maxDepth := ⟨by decide +kernel, by decide +kernel⟩
  constructor
  case chain => exact polygon_gives_text (fun _ => rfl) rfl hid rfl
  case count => exact fun account => polygon_gives_text (fun _ => rfl) rfl hone trivial
  case price => exact polygon_gives_text (fun _ => rfl) rfl hone trivial
  case fees =>
    exact ⟨_, polygon_gives (fun _ => rfl) (by decide +kernel) hblocks hblock ⟨_, rfl, rfl⟩,
      polygon_gives (fun _ => rfl) (by decide +kernel) hfees hrewards (by decide +kernel)⟩
  case gas => exact fun tx => polygon_gives_text (fun _ => rfl) rfl hone trivial
  case broadcast => exact fun tx signer => polygon_gives_text (fun _ => rfl) rfl (Json.asFixedBytes?_toJson .zero) rfl
  case mined =>
    exact polygon_gives (fun _ => rfl) (by decide +kernel) ⟨by decide +kernel, by decide +kernel⟩ hmined ⟨_, rfl, rfl⟩
  case landed =>
    exact polygon_gives (fun _ => rfl) (by decide +kernel) ⟨by decide +kernel, by decide +kernel⟩ hlanded rfl
  case confirmed => exact fun hmore => absurd hmore (by decide)

/-- An artifact of a contract that takes one address. -/
def plainArtifact : String :=
  "\x7b\"abi\":[\x7b\"type\":\"constructor\",\"inputs\":[\x7b\"name\":\"admin\",\"type\":\"address\"\x7d]\x7d],\"bytecode\":\"0x00\"\x7d"

def plainSettings : Settings where
  admin := some .zero
  privateKey := some "0000000000000000000000000000000000000000000000000000000000000001"
  confirmations := 1
  autoVerify := false
  gasLimit := none
  overrides := ⟨none, none⟩
  fiat := ⟨[], FiatSettings.defaultUsdToIdr⟩
  ledgerPath := "deployed.json"
  artifactPath := "a.json"
  rpcTimeout := Settings.defaultRpcTimeout
  deployTimeout := Settings.defaultDeployTimeout
  registry := ⟨[]⟩

def plainPreparation : Preparation where
  admin := .zero
  key := ⟨1, by decide, by decide⟩
  artifact := ⟨none, ⟨some [⟨"admin", .address⟩]⟩, [0], []⟩
  connection := ⟨⟨"http", "", some "[::1]:8545", "/", none, none⟩, 30000⟩

/-- A network that is listed with the chain id of Amoy. -/
def strayNetwork : Network := ⟨"amoy", [], 80002, "http://[::1]:8545", none⟩

def strayWorld : World := .start polygon (Ledger.shelf plainArtifact false) .epoch

theorem isOf_plainPreparation : plainPreparation.IsOf plainSettings strayNetwork strayWorld.disk.files where
  admin := rfl
  key := by decide +kernel
  artifact := by decide +kernel
  connection := by decide +kernel

theorem run_stray_eq_ok : ((run plainSettings strayNetwork).run strayWorld).1 = .ok () := by
  have hurl : plainPreparation.connection.url.TakesRequests := ⟨by decide +kernel, by decide +kernel⟩
  have hdata : plainPreparation.artifact.deploymentData plainPreparation.admin = .ok (List.replicate 33 0) := by
    decide +kernel
  let landing : Landing := ⟨.blank (.legacy none), .zero, polygonReceipt, .zero⟩
  have hput : (put plainSettings strayNetwork strayWorld plainPreparation 137 landing).1.isOk = true := by decide +kernel
  exact run_eq_ok (l := landing) isOf_plainPreparation hurl serves_polygon hdata (by decide) rfl rfl hput

end Deploy
end SplitterLaunch
