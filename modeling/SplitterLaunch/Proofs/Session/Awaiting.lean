import SplitterLaunch.Proofs.Session.Requests

/-! What waiting for a transaction comes to. It is looked up until it is in a block, its receipt until it is
    there, and the latest block until the receipt has its confirmations; each of the three looks at most as
    often as the time limit still allows, and ends with what it waits for exactly if the node answered that. -/

namespace SplitterLaunch

/-- Whether a receipt has a number of confirmations when a block is the latest: as many blocks come after its
    own. -/
def Rpc.Receipt.ConfirmedBy (receipt : Receipt) (confirmations latest : UInt64) : Prop :=
  ∃ block, receipt.blockNumber = some block ∧ block.toNat + confirmations.toNat ≤ latest.toNat

namespace Session
variable (s : Session) (hash : Hash)

theorem isConfirmed?_eq_some_true_iff (receipt : Rpc.Receipt) (latest : UInt64) {confirmations : UInt64}
    (h : 1 ≤ confirmations) :
    (receipt.blockNumber.bind fun block => isConfirmed? latest block confirmations) = some true ↔
      receipt.ConfirmedBy confirmations latest := by
  have hone : 1 ≤ confirmations.toNat := h
  have hlatest : latest.toNat < UInt64.size := latest.toNat_lt
  cases hblock : receipt.blockNumber with
  | none => simp [Rpc.Receipt.ConfirmedBy, hblock]
  | some block =>
    simp only [Rpc.Receipt.ConfirmedBy, hblock, Option.bind_some, isConfirmed?, Option.some.injEq, exists_eq_left']
    split
    · simp only [Option.some.injEq, decide_eq_true_eq]
      omega
    · simp only [reduceCtorEq, false_iff]
      omega

/-! ### The three loops -/

theorem asks_awaitBlock (looks patience : Nat) :
    Run.Asks (s.awaitBlock hash looks patience) fun sent result => Only (.transaction hash) sent ∧
      sent.length ≤ looks ∧ ∀ left, result = .ok (some left) → sent.length + left ≤ looks := by
  -- On the looks that are left; whether one is spent on patience makes no difference to their number.
  induction looks generalizing patience with
  | zero => exact asks_giveUp ⟨only_nil, by simp, nofun⟩
  | succ looks ih =>
    rw [awaitBlock]
    refine (asks_attempt s (.transaction hash) decodeTransaction).bind ?_ ?_
    · intro sent stop h
      obtain ⟨honly, hlength⟩ := h.only
      exact ⟨honly, by omega, nofun⟩
    intro sent outcome h
    obtain ⟨honly, hlength⟩ := h.only
    -- One look was spent, whatever it came to.
    have hagain : ∀ patience, Run.Asks (s.awaitBlock hash looks patience) fun next result =>
        Only (.transaction hash) (next ++ sent) ∧ (next ++ sent).length ≤ looks + 1 ∧
          ∀ left, result = .ok (some left) → (next ++ sent).length + left ≤ looks + 1 := by
      intro patience
      refine (ih patience).mono ?_
      rintro next result ⟨hnext, hle, hleft⟩
      refine ⟨only_append.mpr ⟨hnext, honly⟩, by rw [List.length_append]; omega, fun left hresult => ?_⟩
      have := hleft left hresult
      rw [List.length_append]
      omega
    split
    · exact hagain _
    · split
      · exact Run.asks_pure ⟨by simpa using honly, by rw [List.nil_append]; omega, nofun⟩
      · exact hagain _
    · split
      · refine Run.asks_pure ⟨by simpa using honly, by rw [List.nil_append]; omega, ?_⟩
        rintro left ⟨⟩
        rw [List.nil_append]
        omega
      · exact hagain _

theorem asks_awaitReceipt (looks : Nat) :
    Run.Asks (s.awaitReceipt hash looks) fun sent result => Only (.receipt hash) sent ∧
      sent.length ≤ looks ∧ (∀ receipt left, result = .ok (receipt, left) → sent.length + left ≤ looks) ∧
      ∀ receipt, (∃ left, result = .ok (receipt, left)) ↔ Answered (.receipt hash) decodeReceipt (some receipt) sent := by
  induction looks with
  | zero => exact asks_giveUp ⟨only_nil, by simp, nofun, by simp⟩
  | succ looks ih =>
    rw [awaitReceipt]
    refine (asks_attempt s (.receipt hash) decodeReceipt).bind ?_ ?_
    · intro sent stop h
      cases h with
      | silent => exact ⟨by simp, by simp, nofun, by simp⟩
    intro sent outcome h
    obtain ⟨honly, hlength⟩ := h.only
    -- A look that finds no receipt is followed by another.
    have hagain (hnone : ∀ receipt, ¬ Answered (.receipt hash) decodeReceipt (some receipt) sent) :
        Run.Asks (s.awaitReceipt hash looks) fun next result => Only (.receipt hash) (next ++ sent) ∧
          (next ++ sent).length ≤ looks + 1 ∧
          (∀ receipt left, result = .ok (receipt, left) → (next ++ sent).length + left ≤ looks + 1) ∧
          ∀ receipt, (∃ left, result = .ok (receipt, left)) ↔
            Answered (.receipt hash) decodeReceipt (some receipt) (next ++ sent) := by
      refine ih.mono ?_
      rintro next result ⟨hnext, hle, hleft, hfound⟩
      refine ⟨only_append.mpr ⟨hnext, honly⟩, by rw [List.length_append]; omega, fun receipt left hresult => ?_,
        fun receipt => ?_⟩
      · have := hleft receipt left hresult
        rw [List.length_append]
        omega
      · simp [hnone, hfound]
    cases h with
    | unsent fault => exact hagain (by simp)
    | refused reply fault hreply hnone => exact hagain (by simp [hnone])
    | answered reply found hsome =>
      cases found with
      | none => exact hagain (by simp [hsome])
      | some receipt =>
        refine Run.asks_pure ⟨by simp, by simp, ?_, ?_⟩
        · rintro _ _ ⟨⟩
          rw [List.nil_append, List.length_singleton]
          omega
        · simp [hsome]

theorem asks_awaitConfirmations {receipt : Rpc.Receipt} {confirmations : UInt64} (h : 1 ≤ confirmations) (looks : Nat) :
    Run.Asks (s.awaitConfirmations receipt confirmations looks) fun sent result => Only .blockNumber sent ∧
      sent.length ≤ looks ∧ (result = .ok () ↔
        ∃ latest, Answered .blockNumber decodeBlockNumber latest sent ∧ receipt.ConfirmedBy confirmations latest) := by
  induction looks with
  | zero => exact asks_giveUp ⟨only_nil, by simp, by simp⟩
  | succ looks ih =>
    rw [awaitConfirmations]
    refine (asks_attempt s .blockNumber decodeBlockNumber).bind ?_ ?_
    · intro sent stop hattempt
      cases hattempt with
      | silent => exact ⟨by simp, by simp, by simp⟩
    intro sent outcome hattempt
    cases hattempt with
    | unsent fault =>
      rw [Run.require_error_bind]
      exact Run.asks_fail ⟨by simp, by simp, by simp⟩
    | refused reply fault hreply hnone =>
      rw [Run.require_error_bind]
      exact Run.asks_fail ⟨by simp, by simp, by simp [hnone]⟩
    | answered reply latest hsome =>
      rw [Run.require_ok_bind]
      have hiff := isConfirmed?_eq_some_true_iff receipt latest h
      split
      · rename_i hcrash
        have hunconfirmed : ¬ receipt.ConfirmedBy confirmations latest := by simp [← hiff, hcrash]
        exact Run.asks_crash ⟨by simp, by simp, by simpa [hsome] using hunconfirmed⟩
      · rename_i hdone
        have hconfirmed := hiff.mp hdone
        exact Run.asks_pure ⟨by simp, by simp, by simpa [hsome] using hconfirmed⟩
      · rename_i hagain
        have hunconfirmed : ¬ receipt.ConfirmedBy confirmations latest := by simp [← hiff, hagain]
        refine ih.mono ?_
        rintro next result ⟨hnext, hle, hdone⟩
        refine ⟨by simp [hnext], by rw [List.length_append, List.length_singleton]; omega, ?_⟩
        simp [hdone, hsome, or_and_right, exists_or, hunconfirmed]

/-! ### All replies come -/

theorem stays_awaitBlock (looks patience : Nat) : Stays .awaiting (s.awaitBlock hash looks patience) := by
  induction looks generalizing patience with
  | zero => exact stays_fail _
  | succ looks ih =>
    rw [awaitBlock]
    refine .bind (stays_attempt rfl) fun outcome => ?_
    split
    · exact ih _
    · split
      · exact stays_pure _
      · exact ih _
    · split
      · exact stays_pure _
      · exact ih _

theorem stays_awaitReceipt (looks : Nat) : Stays .awaiting (s.awaitReceipt hash looks) := by
  induction looks with
  | zero => exact stays_fail _
  | succ looks ih =>
    rw [awaitReceipt]
    refine .bind (stays_attempt rfl) fun outcome => ?_
    split
    · exact stays_pure _
    · exact ih

theorem stays_awaitConfirmations (receipt : Rpc.Receipt) (confirmations : UInt64) (looks : Nat) :
    Stays .awaiting (s.awaitConfirmations receipt confirmations looks) := by
  induction looks with
  | zero => exact stays_fail _
  | succ looks ih =>
    rw [awaitConfirmations]
    refine .bind (stays_attempt rfl) fun outcome => ?_
    cases outcome with
    | error fault => exact stays_fail _
    | ok latest =>
      rw [Run.require_ok_bind]
      split
      · exact stays_crash
      · exact stays_pure _
      · exact ih

theorem stays_await (confirmations : UInt64) : Stays .awaiting (s.await hash confirmations) := by
  unfold await
  refine (s.stays_awaitBlock hash _ _).bind fun found => ?_
  cases found with
  | none => exact stays_pure _
  | some looks =>
    refine (s.stays_awaitReceipt hash _).bind fun found => ?_
    dsimp only
    split
    · exact (s.stays_awaitConfirmations _ _ _).bind fun _ => stays_pure _
    · exact stays_pure _

/-! ### The wait as a whole -/

section
variable {hash : Hash} {first second third : List Exchange} (hfirst : Only (.transaction hash) first)
include hfirst

/-- A receipt is told only while it is looked up. -/
theorem answered_receipt_iff {found : Option Rpc.Receipt} (hthird : Only .blockNumber third) :
    Answered (.receipt hash) decodeReceipt found (third ++ second ++ first) ↔
      Answered (.receipt hash) decodeReceipt found second := by
  rw [answered_append, answered_append, or_iff_left (hfirst.not_answered (by nofun)),
    or_iff_right (hthird.not_answered (by nofun))]

/-- The latest block is told only while confirmations are awaited. -/
theorem answered_blockNumber_iff {latest : UInt64} (hsecond : Only (.receipt hash) second) :
    Answered .blockNumber decodeBlockNumber latest (third ++ second ++ first) ↔
      Answered .blockNumber decodeBlockNumber latest third := by
  rw [answered_append, answered_append, or_iff_left (hfirst.not_answered (by nofun)),
    or_iff_left (hsecond.not_answered (by nofun))]

end

/-- The waiting ends with a receipt exactly if the node gave it, and its confirmations if they are to be
    awaited. -/
theorem asks_await_receipt (confirmations : UInt64) :
    Run.Asks (s.await hash confirmations) fun sent result => sent.length ≤ s.timeout ∧
      ∀ receipt, result = .ok (some receipt) ↔ Answered (.receipt hash) decodeReceipt (some receipt) sent ∧
        (1 < confirmations →
          ∃ latest, Answered .blockNumber decodeBlockNumber latest sent ∧ receipt.ConfirmedBy confirmations latest) := by
  unfold await
  refine (s.asks_awaitBlock hash s.looks patience).bind ?_ ?_
  · rintro first stop ⟨hfirst, hle, -⟩
    exact ⟨hle, fun receipt => ⟨nofun, fun h => absurd h.1 (hfirst.not_answered nofun)⟩⟩
  rintro first found ⟨hfirst, hle, hleft⟩
  cases found with
  | none => exact Run.asks_pure ⟨hle, fun receipt => ⟨nofun, fun h => absurd h.1 (hfirst.not_answered nofun)⟩⟩
  | some looks =>
  have hlooks : first.length + looks ≤ s.timeout := hleft looks rfl
  refine (s.asks_awaitReceipt hash looks).bind ?_ ?_
  · rintro second stop ⟨-, hle, -, hfound⟩
    refine ⟨by rw [List.length_append]; omega, fun receipt => ⟨nofun, ?_⟩⟩
    rintro ⟨htold, -⟩
    rw [answered_append, or_iff_left (hfirst.not_answered (by nofun))] at htold
    obtain ⟨left, hleft⟩ := (hfound receipt).mpr htold
    cases hleft
  rintro second ⟨receipt, left⟩ ⟨hsecond, -, hleft, hfound⟩
  have hleft := hleft receipt left rfl
  have htold (receipt' : Rpc.Receipt) :
      Answered (.receipt hash) decodeReceipt (some receipt') second ↔ receipt = receipt' := by
    simp [← hfound]
  dsimp only
  split
  · rename_i hmore
    refine (s.asks_awaitConfirmations (UInt64.le_of_lt hmore) left).bind ?_ ?_
    · rintro third stop ⟨hthird, hle, hdone⟩
      refine ⟨by rw [List.length_append, List.length_append]; omega, fun receipt' => ⟨nofun, ?_⟩⟩
      rintro ⟨hreceipt, hconfirmed⟩
      rw [answered_receipt_iff hfirst hthird, htold] at hreceipt
      subst hreceipt
      simp only [answered_blockNumber_iff hfirst hsecond] at hconfirmed
      cases hdone.mpr (hconfirmed hmore)
    · rintro third ⟨⟩ ⟨hthird, hle, hdone⟩
      refine Run.asks_pure ⟨by simp only [List.nil_append, List.length_append]; omega, fun receipt' => ?_⟩
      simp only [List.nil_append, answered_receipt_iff hfirst hthird, answered_blockNumber_iff hfirst hsecond, htold,
        Except.ok.injEq, Option.some.injEq]
      refine ⟨?_, And.left⟩
      rintro rfl
      exact ⟨rfl, fun _ => hdone.mp rfl⟩
  · rename_i hfew
    refine Run.asks_pure ⟨by simp only [List.nil_append, List.length_append]; omega, fun receipt' => ?_⟩
    have hreceipt : Answered (.receipt hash) decodeReceipt (some receipt') ([] ++ second ++ first) ↔ receipt = receipt' :=
      (answered_receipt_iff hfirst only_nil).trans (htold receipt')
    rw [hreceipt, Except.ok.injEq, Option.some.injEq]
    exact ⟨fun h => ⟨h, fun hmore => absurd hmore hfew⟩, And.left⟩

/-- What the wait for a transaction came to: no more looks than the time limit has milliseconds, every reply
    there if it ended well, and a receipt exactly if the node gave it, with its confirmations. -/
structure Awaited (confirmations : UInt64) (sent : List Exchange)
    (result : Except (Stop Failure) (Option Rpc.Receipt)) : Prop where
  stage : AllOf .awaiting sent
  length : sent.length ≤ s.timeout
  heard : ∀ found, result = .ok found → Heard sent
  receipt : ∀ receipt, result = .ok (some receipt) ↔
    Answered (.receipt hash) decodeReceipt (some receipt) sent ∧
      (1 < confirmations →
        ∃ latest, Answered .blockNumber decodeBlockNumber latest sent ∧ receipt.ConfirmedBy confirmations latest)

theorem asks_await (confirmations : UInt64) : Run.Asks (s.await hash confirmations) (s.Awaited hash confirmations) := by
  refine ((s.stays_await hash confirmations).and (s.asks_await_receipt hash confirmations)).mono ?_
  rintro sent result ⟨⟨hall, hheard⟩, hle, hreceipt⟩
  exact ⟨hall, hle, hheard, hreceipt⟩

end Session
end SplitterLaunch
