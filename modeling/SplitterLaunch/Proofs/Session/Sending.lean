import SplitterLaunch.Proofs.Session.Requests

/-! What sending a transaction asks and submits. Settling asks about the sender, the fees and the gas, and
    keeps what is settled already; then the transaction is submitted, at most once. -/

namespace SplitterLaunch

/-- What settling sets in a transaction, and what it keeps of it. -/
structure Settled (signer : Signer) (tx settled : Transaction) : Prop where
  sender : settled.sender = some signer.address
  recipient : settled.recipient = tx.recipient
  data : settled.data = tx.data
  gas : ∀ limit, tx.gas = some limit → settled.gas = some limit
  chainId : settled.chainId = some (tx.chainId.getD signer.chainId)

/-- What the sending of a transaction came to: a transaction that is not settled is not submitted, and one
    that is settled is submitted at most once, and has the hash that the node answers to that. -/
inductive Session.Sending (signer : Signer) (tx : Transaction) : List Exchange → Except (Stop Failure) Hash → Prop where
  | unsettled (sent : List Exchange) (stop : Stop Failure) (hsent : AllOf .settling sent) :
    Sending signer tx sent (.error stop)
  | unsubmitted (sent : List Exchange) (stop : Stop Failure) (settled : Transaction) (hsent : AllOf .settling sent)
    (hsettled : Settled signer tx settled) : Sending signer tx sent (.error stop)
  | submitted (sent : List Exchange) (result : Except (Stop Failure) Hash) (settled : Transaction) (reply : Reply)
    (hsent : AllOf .settling sent) (hheard : Heard sent) (hsettled : Settled signer tx settled)
    (hresult : ∀ hash, result = .ok hash ↔ Rpc.result? decodeHash reply = some hash) :
    Sending signer tx (⟨.broadcast settled signer.address, reply⟩ :: sent) result

namespace Session
variable (s : Session) (signer : Signer) (tx : Transaction)

/-! ### Settling -/

theorem stays_rewards : Stays .settling s.rewards := by
  unfold rewards
  refine .bind (stays_attempt rfl) fun outcome => ?_
  cases outcome with
  | ok rewards => exact stays_pure rewards
  | error fault =>
    refine .bind (stays_attempt rfl) fun outcome => ?_
    cases outcome with
    | ok rewards => exact stays_pure rewards
    | error => exact stays_fail _

theorem stays_baseFee : Stays .settling s.baseFee := by
  unfold baseFee
  refine .bind (stays_call rfl) fun block => ?_
  cases block with
  | none => exact stays_fail _
  | some block =>
    dsimp only
    split
    · exact stays_fail _
    · exact stays_pure _

theorem stays_estimatedFees : Stays .settling s.estimatedFees := by
  unfold estimatedFees
  refine s.stays_baseFee.bind fun baseFee => s.stays_rewards.bind fun rewards => ?_
  split
  · exact stays_pure _
  · exact stays_crash

theorem stays_settlePricing (pricing : Pricing) : Stays .settling (s.settlePricing pricing) := by
  unfold settlePricing
  split
  · exact stays_pure _
  · exact .bind (stays_call rfl) fun price => stays_pure _
  · exact stays_pure _
  · exact .bind (stays_call rfl) fun price => stays_pure _
  · exact stays_pure _
  · exact s.stays_estimatedFees.bind fun fees => stays_pure _

theorem stays_settle : Stays .settling (s.settle signer tx) := by
  unfold settle
  refine .bind (stays_call rfl) fun nonce => (s.stays_settlePricing _).bind fun pricing => ?_
  dsimp only
  split
  · exact stays_pure _
  · exact .bind (stays_call rfl) fun gas => stays_pure _

theorem gives_settle : Run.Gives (s.settle signer tx) (Settled signer tx) := by
  unfold settle
  refine Run.gives_bind fun nonce => Run.gives_bind fun pricing => ?_
  dsimp only
  split
  · rename_i limit hlimit
    exact Run.gives_pure ⟨rfl, rfl, rfl, fun _ h => h, rfl⟩
  · rename_i hnone
    refine Run.gives_bind fun gas => Run.gives_pure ⟨rfl, rfl, rfl, fun limit h => ?_, rfl⟩
    cases hnone.symm.trans h

/-! ### Submitting -/

theorem asks_send : Run.Asks (s.send signer tx) (Sending signer tx) := by
  unfold send
  refine ((s.stays_settle signer tx).gives (s.gives_settle signer tx)).bind ?_ ?_
  · rintro sent stop ⟨⟨hall, -⟩, -⟩
    exact .unsettled sent stop hall
  · rintro sent settled ⟨⟨hall, hheard⟩, hsettled⟩
    refine (asks_call s (.broadcast settled signer.address) decodeHash).mono ?_
    rintro next result (⟨rfl, stop, rfl⟩ | ⟨reply, rfl, hresult⟩)
    · exact .unsubmitted sent stop settled hall (hsettled _ rfl)
    · exact .submitted sent result settled reply hall (hheard _ rfl) (hsettled _ rfl) hresult

end Session
end SplitterLaunch
