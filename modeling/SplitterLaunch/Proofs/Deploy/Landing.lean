import SplitterLaunch.Proofs.Artifact
import SplitterLaunch.Proofs.Session.Awaiting
import SplitterLaunch.Proofs.Session.Sending

/-! What deploying comes to. At most one transaction is broadcast, and it is the artifact's deployment; the
    deployment succeeds exactly if the node gave a good receipt for it, in time and with its confirmations. -/

namespace SplitterLaunch

/-! ### The time limit -/

/-- Whether the requests of a stage count for the time limit of a deployment. -/
def Stage.isTimed : Stage → Bool
  | .settling => true
  | .broadcasting => true
  | .awaiting => true
  | _ => false

/-- Whether no exchange counts for the time limit of a deployment. -/
def Untimed (sent : List Exchange) : Prop := ∀ e ∈ sent, e.request.stage.isTimed = false

section
variable {α : Type} {sent next : List Exchange} {stage : Stage}

theorem Untimed.not_answered {request : Request} {decode : Json.Source → Option α} {x : α} (h : Untimed sent)
    (hrequest : request.stage.isTimed = true) : ¬ Answered request decode x sent :=
  not_answered_of_stage fun e he heq => by
    rw [← heq, h e he] at hrequest
    cases hrequest

/-- Whether the deployment in a run kept its time limit: every reply came, and it looked no more often for
    its transaction than once in a millisecond. -/
structure InTime (timeout : Nat) (sent : List Exchange) : Prop where
  heard : ∀ e ∈ sent, e.request.stage.isTimed = true → e.reply ≠ .silence
  looks : sent.countP (fun e => e.request.stage = .awaiting) ≤ timeout

end

/-! ### Landings -/

/-- A contract that came onto the chain: the transaction that was broadcast, the hash it got, its receipt and
    the contract's address. -/
structure Landing where
  transaction : Transaction
  hash : Hash
  receipt : Rpc.Receipt
  contract : Address

/-- Whether a landing is told by what a node answered: the transaction was broadcast and got its hash, the
    hash has the receipt, in time and with its confirmations, and the receipt is that of a success with the
    contract's address. -/
structure Landing.IsTold (l : Landing) (signer : Signer) (confirmations : UInt64) (timeout : Nat)
    (sent : List Exchange) : Prop where
  broadcast : Answered (.broadcast l.transaction signer.address) Session.decodeHash l.hash sent
  receipt : Answered (.receipt l.hash) Session.decodeReceipt (some l.receipt) sent
  confirmed : 1 < confirmations → ∃ latest,
    Answered .blockNumber Session.decodeBlockNumber latest sent ∧ l.receipt.ConfirmedBy confirmations latest
  inTime : InTime timeout sent
  succeeded : l.receipt.status = some 1
  contract : l.receipt.contract = some l.contract

/-- The deployment that a landing is, for the account that signed it. -/
def Landing.deployment (l : Landing) (deployer : Address) : Deployment where
  address := l.contract
  transaction := l.receipt.transaction
  blockNumber := l.receipt.blockNumber
  deployer := deployer

theorem Deployment.ofReceipt_eq_ok_iff {deployer : Address} {receipt : Rpc.Receipt} {d : Deployment} :
    ofReceipt deployer receipt = .ok d ↔ receipt.status = some 1 ∧
      ∃ contract, receipt.contract = some contract ∧ d = ⟨contract, receipt.transaction, receipt.blockNumber, deployer⟩ := by
  unfold ofReceipt
  split
  · rename_i hstatus
    simp [hstatus]
  · rename_i hstatus
    have hone : receipt.status = some 1 := Classical.not_not.mp hstatus
    cases receipt.contract with
    | none => simp
    | some address => simp [hone, eq_comm]

/-! ### The transaction that is broadcast -/

/-- Whether a transaction deploys a contract for an administrator: it goes to nobody, its data is the contract's
    code and a word with the administrator's twenty bytes at its end, and it has the gas limit that is set. -/
structure Transaction.Deploys (tx : Transaction) (artifact : Artifact) (admin : Address) (gasLimit : Option Quantity) :
    Prop where
  recipient : tx.recipient = none
  encodable : ∃ data, artifact.deploymentData admin = .ok data
  data : tx.data = some (artifact.creationCode ++ List.replicate 12 0 ++ admin.bytes)
  gas : ∀ limit, gasLimit = some limit → tx.gas = some limit

theorem Settled.deploys {signer : Signer} {artifact : Artifact} {request : DeployRequest} {tx settled : Transaction}
    (h : Settled signer (tx.override request.gasLimit request.overrides) settled)
    (htx : artifact.deployment request.admin = .ok tx) :
    settled.Deploys artifact request.admin request.gasLimit ∧ settled.chainId = some signer.chainId := by
  have hcreates := Artifact.creates_of_deployment htx
  obtain ⟨htakes, rfl⟩ := Artifact.deployment_eq_ok_iff.mp htx
  refine ⟨⟨h.recipient, ⟨_, Artifact.deploymentData_eq_ok_iff.mpr ⟨htakes, rfl⟩⟩, h.data.trans hcreates.data, ?_⟩, h.chainId⟩
  rintro limit hlimit
  exact h.gas limit (by rw [hlimit]; rfl)

namespace Deployment
variable {signer : Signer} {artifact : Artifact} {request : DeployRequest} {sent next : List Exchange}

/-- What deploying submits: one transaction at most, which is the artifact's deployment. -/
structure Submits (signer : Signer) (artifact : Artifact) (request : DeployRequest) (sent : List Exchange) : Prop where
  timed : ∀ e ∈ sent, e.request.stage.isTimed = true
  once : sent.countP (·.request.isBroadcast) ≤ 1
  broadcast : ∀ e ∈ sent, e.request.isBroadcast = true → ∃ tx, e.request = .broadcast tx signer.address ∧
    tx.Deploys artifact request.admin request.gasLimit ∧ tx.chainId = some signer.chainId

theorem submits_nil : Submits signer artifact request [] := ⟨by simp, by simp, by simp⟩

theorem Submits.append (h : Submits signer artifact request sent) {stage : Stage} (hnext : AllOf stage next)
    (htimed : stage.isTimed = true) (hstage : stage ≠ .broadcasting) : Submits signer artifact request (next ++ sent) := by
  have hno (e : Exchange) (he : e ∈ next) : ¬ e.request.isBroadcast = true := by
    rw [Request.isBroadcast_iff, hnext e he]
    exact hstage
  constructor
  · intro e he
    rcases List.mem_append.mp he with he | he
    · rw [hnext e he, htimed]
    · exact h.timed e he
  · rw [List.countP_append, List.countP_eq_zero.mpr hno, Nat.zero_add]
    exact h.once
  · intro e he hbroadcast
    rcases List.mem_append.mp he with he | he
    · exact absurd hbroadcast (hno e he)
    · exact h.broadcast e he hbroadcast

/-- The exchanges of a transaction that was sent, and no receipt among them. -/
theorem submits_of_sending {tx : Transaction} {result : Except (Stop Failure) Hash}
    (htx : artifact.deployment request.admin = .ok tx)
    (h : Session.Sending signer (tx.override request.gasLimit request.overrides) sent result) :
    Submits signer artifact request sent ∧ ∀ e ∈ sent, e.request.stage ≠ .awaiting := by
  have hsettling {sent : List Exchange} (hsent : AllOf .settling sent) : Submits signer artifact request sent := by
    simpa using submits_nil.append hsent rfl nofun
  cases h with
  | unsettled _ stop hsent => exact ⟨hsettling hsent, fun e he => by simp [hsent e he]⟩
  | unsubmitted _ stop settled hsent hsettled => exact ⟨hsettling hsent, fun e he => by simp [hsent e he]⟩
  | submitted sent _ settled reply hsent hheard hsettled hresult =>
    have hno (e : Exchange) (he : e ∈ sent) : ¬ e.request.isBroadcast = true := by
      simp [Request.isBroadcast_iff, hsent e he]
    refine ⟨⟨?_, ?_, ?_⟩, ?_⟩
    · simpa [Request.stage, Stage.isTimed] using (hsettling hsent).timed
    · rw [List.countP_cons, List.countP_eq_zero.mpr hno]
      split <;> decide
    · intro e he hbroadcast
      rcases List.mem_cons.mp he with rfl | he
      · exact ⟨settled, rfl, hsettled.deploys htx⟩
      · exact absurd hbroadcast (hno e he)
    · intro e he
      rcases List.mem_cons.mp he with rfl | he
      · simp [Request.stage]
      · simp [hsent e he]

/-- After a transaction was broadcast, a landing is told exactly if it is this transaction's and the waiting
    for it ended with the landing's receipt. -/
theorem isTold_iff {s : Session} {settled : Transaction} {reply : Reply} {hash : Hash} {confirmations : UInt64}
    {result : Except (Stop Failure) (Option Rpc.Receipt)} (hsent : AllOf .settling sent) (hheard : Heard sent)
    (hreply : Rpc.result? Session.decodeHash reply = some hash) (hnext : s.Awaited hash confirmations next result)
    (l : Landing) :
    l.IsTold signer confirmations s.timeout (next ++ ⟨.broadcast settled signer.address, reply⟩ :: sent) ↔
      l.transaction = settled ∧ l.hash = hash ∧ result = .ok (some l.receipt) ∧
        l.receipt.status = some 1 ∧ l.receipt.contract = some l.contract := by
  have hno {α : Type} {request : Request} {decode : Json.Source → Option α} {x : α} (h : request.stage = .awaiting) :
      ¬ Answered request decode x (⟨.broadcast settled signer.address, reply⟩ :: sent) :=
    not_answered_of_stage fun e he => by
      rw [h]
      rcases List.mem_cons.mp he with rfl | he
      · nofun
      · simp [hsent e he]
  have hbroadcast {tx : Transaction} {hash' : Hash} :
      Answered (.broadcast tx signer.address) Session.decodeHash hash'
        (next ++ ⟨.broadcast settled signer.address, reply⟩ :: sent) ↔ tx = settled ∧ hash' = hash := by
    have hnext : ¬ Answered (.broadcast tx signer.address) Session.decodeHash hash' next :=
      hnext.stage.not_answered nofun
    have hsent : ¬ Answered (.broadcast tx signer.address) Session.decodeHash hash' sent := hsent.not_answered nofun
    simp [hnext, hsent, hreply, eq_comm]
  constructor
  -- What a landing is told by was asked for in the stage that it belongs to, and there is one of each.
  · intro h
    obtain ⟨htx, rfl⟩ := hbroadcast.mp h.broadcast
    have hreceipt := h.receipt
    rw [answered_append, or_iff_left (hno rfl)] at hreceipt
    refine ⟨htx, rfl, (hnext.receipt _).mpr ⟨hreceipt, fun hmore => ?_⟩, h.succeeded, h.contract⟩
    obtain ⟨latest, hlatest, hconfirmed⟩ := h.confirmed hmore
    rw [answered_append, or_iff_left (hno rfl)] at hlatest
    exact ⟨latest, hlatest, hconfirmed⟩
  · rintro ⟨htx, rfl, hresult, hsucceeded, hcontract⟩
    obtain ⟨hreceipt, hconfirmed⟩ := (hnext.receipt _).mp hresult
    refine ⟨hbroadcast.mpr ⟨htx, rfl⟩, answered_append.mpr (.inl hreceipt), fun hmore => ?_, ⟨?_, ?_⟩, hsucceeded,
      hcontract⟩
    · obtain ⟨latest, hlatest, hconfirmed⟩ := hconfirmed hmore
      exact ⟨latest, answered_append.mpr (.inl hlatest), hconfirmed⟩
    · intro e he _
      rcases List.mem_append.mp he with he | he
      · exact hnext.heard _ hresult e he
      rcases List.mem_cons.mp he with rfl | he
      · rintro rfl
        cases hreply
      · exact hheard e he
    · have hunawaited : (⟨.broadcast settled signer.address, reply⟩ :: sent).countP
          (fun e => e.request.stage = .awaiting) = 0 := by
        rw [List.countP_eq_zero]
        intro e he
        rcases List.mem_cons.mp he with rfl | he
        · simp [Request.stage]
        · simp [hsent e he]
      rw [List.countP_append, hunawaited]
      exact Nat.le_trans List.countP_le_length hnext.length

/-- What deploying came to: it succeeds exactly with a landing that the node told. -/
structure Ran (signer : Signer) (artifact : Artifact) (request : DeployRequest) (sent : List Exchange)
    (result : Except (Stop Failure) Deployment) : Prop extends Submits signer artifact request sent where
  landed : ∀ d, result = .ok d ↔
    ∃ l : Landing, l.IsTold signer request.confirmations request.timeout sent ∧ d = l.deployment signer.address

/-- Without a receipt nothing has landed. -/
theorem ran_of_unawaited (h : Submits signer artifact request sent) (hno : ∀ e ∈ sent, e.request.stage ≠ .awaiting)
    (stop : Stop Failure) : Ran signer artifact request sent (.error stop) := by
  refine ⟨h, fun d => ⟨nofun, ?_⟩⟩
  rintro ⟨l, htold, -⟩
  obtain ⟨e, he, hreceipt, -⟩ := htold.receipt
  exact absurd (by rw [hreceipt]; rfl) (hno e he)

/-- What came of a broadcast transaction: the waiting for it decides. -/
theorem ran_of_awaited {s : Session} {settled : Transaction} {reply : Reply} {hash : Hash}
    {found : Except (Stop Failure) (Option Rpc.Receipt)} {result : Except (Stop Failure) Deployment}
    (h : Submits signer artifact request (⟨.broadcast settled signer.address, reply⟩ :: sent))
    (hsent : AllOf .settling sent) (hheard : Heard sent) (hreply : Rpc.result? Session.decodeHash reply = some hash)
    (hnext : s.Awaited hash request.confirmations next found) (htimeout : s.timeout = request.timeout)
    (hresult : ∀ d, result = .ok d ↔ ∃ receipt, found = .ok (some receipt) ∧ ofReceipt signer.address receipt = .ok d) :
    Ran signer artifact request (next ++ ⟨.broadcast settled signer.address, reply⟩ :: sent) result := by
  refine ⟨h.append hnext.stage rfl nofun, fun d => ?_⟩
  rw [hresult, ← htimeout]
  constructor
  · rintro ⟨receipt, hfound, hreceipt⟩
    obtain ⟨hsucceeded, contract, hcontract, rfl⟩ := ofReceipt_eq_ok_iff.mp hreceipt
    exact ⟨⟨settled, hash, receipt, contract⟩,
      (isTold_iff hsent hheard hreply hnext _).mpr ⟨rfl, rfl, hfound, hsucceeded, hcontract⟩, rfl⟩
  · rintro ⟨l, htold, rfl⟩
    obtain ⟨-, -, hfound, hsucceeded, hcontract⟩ := (isTold_iff hsent hheard hreply hnext l).mp htold
    exact ⟨l.receipt, hfound, ofReceipt_eq_ok_iff.mpr ⟨hsucceeded, l.contract, hcontract, rfl⟩⟩

theorem asks_run (connection : Connection) (signer : Signer) (artifact : Artifact) (request : DeployRequest) :
    Run.Asks (Deployment.run connection signer artifact request) (Ran signer artifact request) := by
  unfold Deployment.run
  cases htx : artifact.deployment request.admin with
  | error fault =>
    rw [Run.require_error_bind]
    exact Run.asks_fail (ran_of_unawaited submits_nil (by simp) _)
  | ok tx =>
    rw [Run.require_ok_bind]
    dsimp only
    refine (Session.asks_send _ signer _).bind ?_ ?_
    · intro sent stop hsending
      obtain ⟨hsubmits, hno⟩ := submits_of_sending htx hsending
      exact ran_of_unawaited hsubmits hno stop
    intro sent hash hsending
    obtain ⟨hsubmits, -⟩ := submits_of_sending htx hsending
    cases hsending with
    | submitted sent _ settled reply hsent hheard hsettled hresult =>
    have hreply := (hresult hash).mp rfl
    refine (Session.asks_await _ hash request.confirmations).bind ?_ ?_
    · intro next stop hnext
      exact ran_of_awaited hsubmits hsent hheard hreply hnext rfl (by simp)
    intro next found hnext
    cases found with
    | none => exact Run.asks_fail (ran_of_awaited hsubmits hsent hheard hreply hnext rfl (by simp))
    | some receipt =>
      refine Run.asks_require (ran_of_awaited hsubmits hsent hheard hreply hnext rfl fun d => ?_)
      simp [Outcome.mapError_eq_ok_iff]

end Deployment
end SplitterLaunch
