import SplitterLaunch.Proofs.CostBounds
import SplitterLaunch.Proofs.Run
import SplitterLaunch.Sending

/-! What a gas limit and fees that the user sets do to a transaction. They replace the fields that they are set for, leave
    all else, and the later ones win. A limit and a maximum fee that are set bound what the transaction can cost, as the
    estimate with the same settings shows it and as the transaction is signed. -/

namespace SplitterLaunch

section TakenOver
variable {α : Type} {set old new : Option α}

/-- Whether a field takes over what is set for it, and is left where nothing is. -/
def TakenOver (set old new : Option α) : Prop := (∀ x, set = some x → new = some x) ∧ (set = none → new = old)

theorem takenOver_iff : TakenOver set old new ↔ (set <|> old) = new := by
  cases set <;> simp [TakenOver, eq_comm]

end TakenOver

/-! ### Pricing -/

/-- The overrides that two sets of them come to, of which the first one wins. -/
def FeeOverrides.onto (later earlier : FeeOverrides) : FeeOverrides :=
  ⟨later.maxFee <|> earlier.maxFee, later.priorityFee <|> earlier.priorityFee⟩

theorem FeeOverrides.onto_self (o : FeeOverrides) : o.onto o = o := by
  simp [onto]

namespace Pricing

/-- How overrides turn one pricing into another of its kind. A gas price takes over the maximum fee, and no priority fee. -/
inductive Overridden (overrides : FeeOverrides) : Pricing → Pricing → Prop where
  | legacy {price price' : Option Quantity} (h : TakenOver overrides.maxFee price price') :
    Overridden overrides (.legacy price) (.legacy price')
  | accessList {price price' : Option Quantity} (h : TakenOver overrides.maxFee price price') :
    Overridden overrides (.accessList price) (.accessList price')
  | feeMarket {maxFee maxFee' priorityFee priorityFee' : Option Quantity}
      (hmax : TakenOver overrides.maxFee maxFee maxFee')
      (hpriority : TakenOver overrides.priorityFee priorityFee priorityFee') :
    Overridden overrides (.feeMarket maxFee priorityFee) (.feeMarket maxFee' priorityFee')

theorem override_eq_iff {overrides : FeeOverrides} {p p' : Pricing} :
    p.override overrides = p' ↔ Overridden overrides p p' := by
  constructor
  · rintro rfl
    cases p with
    | legacy price => exact .legacy (takenOver_iff.mpr rfl)
    | accessList price => exact .accessList (takenOver_iff.mpr rfl)
    | feeMarket maxFee priorityFee => exact .feeMarket (takenOver_iff.mpr rfl) (takenOver_iff.mpr rfl)
  · intro h
    cases h with
    | legacy h => exact congrArg legacy (takenOver_iff.mp h)
    | accessList h => exact congrArg accessList (takenOver_iff.mp h)
    | feeMarket hmax hpriority => exact congrArg₂ feeMarket (takenOver_iff.mp hmax) (takenOver_iff.mp hpriority)

theorem override_override (first second : FeeOverrides) (p : Pricing) :
    (p.override first).override second = p.override (second.onto first) := by
  cases p <;> simp [override, FeeOverrides.onto, Option.or_assoc]

theorem cap_override (overrides : FeeOverrides) (p : Pricing) :
    (p.override overrides).cap = (overrides.maxFee <|> p.cap) := by
  cases p <;> rfl

end Pricing

/-! ### The estimate -/

namespace CostEstimate
variable {chainId : UInt64} {gas cap : Quantity} {quote : FeeQuote} {overrides : FeeOverrides} {fiat : FiatSettings}

/-- With a maximum fee that is set, an estimate fails only where a number leaves the range of quantities, and its upper
    bound is the product of gas and fee. -/
inductive Shows (gas cap : Quantity) (baseFee : Option Quantity) (priorityFee : Nat) :
    Except CostFault CostEstimate → Prop where
  | dear (h : 2 ^ 256 ≤ gas.toNat * cap.toNat) : Shows gas cap baseFee priorityFee (.error (.overflow .upperBound))
  | tipped {base : Quantity} (h : gas.toNat * cap.toNat < 2 ^ 256) (hbase : baseFee = some base)
      (hprice : 2 ^ 256 ≤ base.toNat + priorityFee) :
    Shows gas cap baseFee priorityFee (.error (.overflow .effectivePrice))
  | shown {e : CostEstimate} (h : e.cost.upper.toNat = gas.toNat * cap.toNat) : Shows gas cap baseFee priorityFee (.ok e)

theorem compute_shows (h : overrides.maxFee = some cap) :
    Shows gas cap quote.baseFee (priorityFee quote overrides) (compute chainId gas quote overrides fiat) := by
  have hmax : maxFee? quote overrides = some cap.toNat := by
    unfold maxFee? Fees.first?
    rw [h]
    rfl
  have ends := compute_ends chainId gas quote overrides fiat
  rw [hmax] at ends
  generalize compute chainId gas quote overrides fiat = outcome at ends ⊢
  cases ends with
  | noFees hnone => cases hnone
  | upperBound hcap hle =>
    cases hcap
    exact .dear hle
  | effectivePrice hcap hlt hbase hprice =>
    cases hcap
    obtain ⟨base, hb, rfl⟩ := Option.map_eq_some_iff.mp hbase
    exact .tipped hlt hb hprice
  | estimate hcap hlt hsum hupper hlower =>
    cases hcap
    exact .shown hupper

end CostEstimate

/-! ### Transactions -/

/-- How a gas limit and fees that are set turn one transaction into another. -/
structure Transaction.Overridden (gasLimit : Option Quantity) (overrides : FeeOverrides) (tx tx' : Transaction) : Prop where
  gas : TakenOver gasLimit tx.gas tx'.gas
  pricing : tx.pricing.Overridden overrides tx'.pricing
  rest : { tx' with gas := tx.gas, pricing := tx.pricing } = tx

namespace Transaction
variable {gasLimit gasLimit' : Option Quantity} {overrides overrides' : FeeOverrides} {tx tx' : Transaction}

theorem override_eq_iff : tx.override gasLimit overrides = tx' ↔ tx.Overridden gasLimit overrides tx' := by
  constructor
  · rintro rfl
    exact ⟨takenOver_iff.mpr rfl, Pricing.override_eq_iff.mp rfl, rfl⟩
  · rintro ⟨hgas, hpricing, hrest⟩
    unfold override
    rw [takenOver_iff.mp hgas, Pricing.override_eq_iff.mpr hpricing, ← hrest]

theorem override_override : (tx.override gasLimit overrides).override gasLimit' overrides' =
    tx.override (gasLimit' <|> gasLimit) (overrides'.onto overrides) := by
  simp [override, Pricing.override_override, Option.or_assoc]

theorem override_self : (tx.override gasLimit overrides).override gasLimit overrides = tx.override gasLimit overrides := by
  rw [override_override, FeeOverrides.onto_self, Option.orElse_eq_orElse, Option.orElse_eq_or, Option.or_self]

theorem cap_override {cap : Quantity} (h : overrides.maxFee = some cap) :
    (tx.override gasLimit overrides).pricing.cap = some cap := by
  show (tx.pricing.override overrides).cap = some cap
  rw [Pricing.cap_override, h]
  rfl

/-- Overriding takes over what is set and leaves all else of a transaction of any kind; done once more it changes nothing,
    and of two sets of overrides the later one wins, field by field. With a limit and a maximum fee that are set, the
    product of the transaction's gas and cap is the upper bound of the estimate for this limit and these overrides,
    wherever there is one. -/
theorem override_capped (gasLimit : Option Quantity) (overrides : FeeOverrides) (tx : Transaction) :
    (∀ tx', tx.override gasLimit overrides = tx' ↔ tx.Overridden gasLimit overrides tx') ∧
    (tx.override gasLimit overrides).override gasLimit overrides = tx.override gasLimit overrides ∧
    (∀ gasLimit' overrides', (tx.override gasLimit overrides).override gasLimit' overrides' =
      tx.override (gasLimit' <|> gasLimit) (overrides'.onto overrides)) ∧
    ∀ limit maxFee, gasLimit = some limit → overrides.maxFee = some maxFee → ∃ gas cap,
      (tx.override gasLimit overrides).gas = some gas ∧ (tx.override gasLimit overrides).pricing.cap = some cap ∧
      ∀ chainId quote fiat, CostEstimate.Shows gas cap quote.baseFee (CostEstimate.priorityFee quote overrides)
        (CostEstimate.compute chainId limit quote overrides fiat) := by
  refine ⟨fun _ => override_eq_iff, override_self, fun _ _ => override_override, ?_⟩
  rintro limit maxFee rfl hmax
  exact ⟨limit, maxFee, rfl, cap_override hmax, fun chainId quote fiat => CostEstimate.compute_shows hmax⟩

/-- A transaction with an access list has no use for a priority fee, and a node that tells nothing is no obstacle to its
    estimate. -/
theorem override_capped_listed :
    (blank (.accessList none)).override (some oneGwei) ⟨some oneGwei, some oneGwei⟩ =
      { blank (.accessList (some oneGwei)) with gas := some oneGwei } ∧
    ∃ e, CostEstimate.compute 137 oneGwei .none ⟨some oneGwei, some oneGwei⟩ ⟨[], FiatSettings.defaultUsdToIdr⟩ = .ok e ∧
      e.cost.upper.toNat = 10 ^ 18 := by
  obtain ⟨hspec, -, -, hcost⟩ := override_capped (some oneGwei) ⟨some oneGwei, some oneGwei⟩ (blank (.accessList none))
  refine ⟨(hspec _).mpr ⟨⟨by simp, by simp⟩, .accessList ⟨by simp, by simp⟩, rfl⟩, ?_⟩
  obtain ⟨gas, cap, hgas, hcap, hshows⟩ := hcost oneGwei oneGwei rfl rfl
  cases hgas
  cases hcap
  have hshown := hshows 137 .none ⟨[], FiatSettings.defaultUsdToIdr⟩
  generalize CostEstimate.compute 137 oneGwei .none ⟨some oneGwei, some oneGwei⟩ _ = outcome at hshown ⊢
  cases hshown with
  | dear h => exact absurd h (by decide)
  | tipped h hbase => cases hbase
  | shown h => exact ⟨_, rfl, h⟩

end Transaction

/-! ### Signing -/

namespace Session
variable (s : Session) (signer : Signer)

theorem gives_settlePricing {pricing : Pricing} {cap : Quantity} (h : pricing.cap = some cap) :
    Run.Gives (s.settlePricing pricing) fun settled => settled.cap = some cap := by
  cases pricing with
  | legacy price =>
    obtain rfl : price = some cap := h
    exact Run.gives_pure rfl
  | accessList price =>
    obtain rfl : price = some cap := h
    exact Run.gives_pure rfl
  | feeMarket maxFee priorityFee =>
    obtain rfl : maxFee = some cap := h
    cases priorityFee with
    | none => exact Run.gives_bind fun fees => Run.gives_pure rfl
    | some fee => exact Run.gives_pure rfl

/-- Gas and a cap that are settled stay, on every chain. -/
theorem gives_settle_capped {gas cap : Quantity} {tx : Transaction} (hgas : tx.gas = some gas)
    (hcap : tx.pricing.cap = some cap) :
    Run.Gives (s.settle signer tx) fun settled => settled.gas = some gas ∧ settled.pricing.cap = some cap := by
  unfold settle
  refine Run.gives_bind fun nonce => ?_
  refine Run.Gives.bind (s.gives_settlePricing ((Pricing.cap_onChain _ _).trans hcap)) fun pricing hpricing => ?_
  dsimp only
  rw [hgas]
  exact Run.gives_pure ⟨rfl, hpricing⟩

/-- What is signed costs at most the upper bound that is shown, where both come of one limit and one set of overrides with
    a maximum fee. -/
theorem gives_settle_shown {limit maxFee : Quantity} {overrides : FeeOverrides} (hmax : overrides.maxFee = some maxFee)
    (tx : Transaction) :
    Run.Gives (s.settle signer (tx.override (some limit) overrides)) fun settled => ∃ gas cap,
      settled.gas = some gas ∧ settled.pricing.cap = some cap ∧
      ∀ chainId quote fiat e, CostEstimate.compute chainId limit quote overrides fiat = .ok e →
        e.cost.upper.toNat = gas.toNat * cap.toNat := by
  intro w settled hsettled
  obtain ⟨hgas, hcap⟩ := s.gives_settle_capped signer rfl (Transaction.cap_override hmax) w settled hsettled
  refine ⟨limit, maxFee, hgas, hcap, fun chainId quote fiat e he => ?_⟩
  have hshown : CostEstimate.Shows limit maxFee _ _ (CostEstimate.compute chainId limit quote overrides fiat) :=
    CostEstimate.compute_shows hmax
  rw [he] at hshown
  cases hshown with
  | shown h => exact h

end Session
end SplitterLaunch
