import SplitterLaunch.Proofs.CostBounds
import SplitterLaunch.Proofs.Json.Gaps

/-! What the prices in dollars and rupiah can change in an estimate. The cost is settled without them, and converting it
    never fails, so they decide one field alone; and of all prices, only that of the chain's own token counts. -/

namespace SplitterLaunch

namespace Binary64

/-- Whether a number is above zero: infinity without a sign, or a finite one of this kind. -/
def IsAboveZero (x : Binary64) : Prop :=
  x = infinity false ∨ (x.isFinite = true ∧ x.isNegative = false ∧ 0 < x.magnitude)

theorem magnitude_of_isZero {x : Binary64} (h : x.isZero = true) : x.magnitude = 0 := by
  obtain ⟨hfield, hfraction⟩ : x.field = 0 ∧ x.fraction = 0 := by simpa [isZero] using h
  rw [magnitude_eq, significand, if_pos hfield, hfraction, Nat.mul_zero, Nat.cast_zero, zero_mul]

/-- A number that is not finite is a NaN or infinity, and its sign tells which infinity. -/
theorem eq_infinity_of_not_isFinite {x : Binary64} (hfinite : x.isFinite = false) (hnan : x.isNaN = false) :
    x = infinity x.isNegative := by
  have hfield : x.field = 2047 := by simpa [isFinite] using hfinite
  have hfraction : x.fraction = 0 := by simpa [isNaN, hfield] using hnan
  have hbits : x.bits.toNat % Nat.pow 2 63 = infinityBits := by
    unfold infinityBits field fraction at *
    simp only [Nat.pow_eq] at *
    omega
  rw [infinity, ← hbits, ofParts_bits]

theorem isPositive_iff {x : Binary64} : x.isPositive = true ↔ x.IsAboveZero := by
  simp only [isPositive, Bool.and_eq_true, Bool.not_eq_true']
  constructor
  · rintro ⟨⟨hsign, hzero⟩, hnan⟩
    cases hfinite : x.isFinite with
    | true => exact .inr ⟨hfinite, hsign, magnitude_pos hzero⟩
    | false =>
      left
      rw [eq_infinity_of_not_isFinite hfinite hnan, hsign]
  · rintro (rfl | ⟨hfinite, hsign, hpos⟩)
    · decide
    · refine ⟨⟨hsign, ?_⟩, isNaN_of_isFinite hfinite⟩
      by_contra hzero
      rw [magnitude_of_isZero (by simpa using hzero)] at hpos
      exact lt_irrefl _ hpos

end Binary64

namespace FiatSettings
variable {fiat fiat' : FiatSettings} {token : NativeToken}

theorem isSome_ratesFor?_iff : (fiat.ratesFor? token).isSome = true ↔
    ∃ price, fiat.prices.lookup token.priceVariable = some price ∧ price.IsAboveZero := by
  simp [ratesFor?, ← Binary64.isPositive_iff, Option.isSome_iff_exists, Option.bind_eq_some_iff]

/-- Rates come from one price of a token and one of a dollar. -/
theorem ratesFor?_congr (hprice : fiat.prices.lookup token.priceVariable = fiat'.prices.lookup token.priceVariable)
    (hdollar : fiat.usdToIdr = fiat'.usdToIdr) : fiat.ratesFor? token = fiat'.ratesFor? token := by
  unfold ratesFor?
  rw [hprice, hdollar]

end FiatSettings

namespace CostEstimate
variable (chainId : UInt64) (gas : Quantity) (quote : FeeQuote) (overrides : FeeOverrides) (fiat fiat' : FiatSettings)

/-- The fees and the cost of an estimate, or why there are none. No price has a part in it. -/
def priced : Except CostFault (Fees × Bounds Quantity) :=
  match Fees.resolve? quote overrides with
  | none => .error .noFees
  | some fees => do
    let upper ← required .upperBound (gas.mul? fees.maxFee)
    let lower ← lowerBound gas fees upper quote.baseFee
    return (fees, .between lower upper)

/-- An estimate is there whenever its cost is, and nothing that is done with a cost fails. -/
theorem compute_eq_map : compute chainId gas quote overrides fiat =
    (fun p => ofCost chainId gas quote overrides fiat p.1 p.2) <$> priced gas quote overrides := by
  unfold priced
  cases hfees : Fees.resolve? quote overrides with
  | none => exact compute_of_noFees hfees
  | some fees =>
    rw [compute_of_fees hfees]
    simp only [map_bind, map_pure]

theorem ofCost_fiat (fees : Fees) (cost : Bounds Quantity) : ofCost chainId gas quote overrides fiat' fees cost =
    { ofCost chainId gas quote overrides fiat fees cost with
      fiat := (ofCost chainId gas quote overrides fiat' fees cost).fiat } := rfl

theorem isSome_fiat_ofCost_iff (fees : Fees) (cost : Bounds Quantity) :
    (ofCost chainId gas quote overrides fiat fees cost).fiat.isSome = true ↔
      ∃ price, fiat.prices.lookup (NativeToken.ofChain chainId).priceVariable = some price ∧ price.IsAboveZero := by
  rw [← FiatSettings.isSome_ratesFor?_iff, ofCost, Option.isSome_map]

theorem isExact_of_fiat_ofCost (fees : Fees) (cost : Bounds Quantity) {amounts : Bounds FiatAmount}
    (h : (ofCost chainId gas quote overrides fiat fees cost).fiat = some amounts) : amounts.isExact = cost.isExact := by
  obtain ⟨rates, -, rfl⟩ := Option.map_eq_some_iff.mp h
  exact Bounds.isExact_map _ cost

/-- Two settings of prices end an estimate with one fault, or give estimates that differ in the amounts in dollars and
    rupiah at most. These are there exactly for a price above zero of the chain's token, exact exactly if the cost is,
    and the same under settings that agree on that price and on the price of a dollar. -/
theorem compute_isolates_fiat :
    ((∃ fault, compute chainId gas quote overrides fiat = .error fault ∧
        compute chainId gas quote overrides fiat' = .error fault) ∨
      ∃ e e', compute chainId gas quote overrides fiat = .ok e ∧ compute chainId gas quote overrides fiat' = .ok e' ∧
        e' = { e with fiat := e'.fiat }) ∧
    (∀ e, compute chainId gas quote overrides fiat = .ok e →
      (e.fiat.isSome = true ↔
        ∃ price, fiat.prices.lookup (NativeToken.ofChain chainId).priceVariable = some price ∧ price.IsAboveZero) ∧
      ∀ amounts, e.fiat = some amounts → (amounts.isExact = true ↔ e.cost.isExact = true)) ∧
    (fiat.prices.lookup (NativeToken.ofChain chainId).priceVariable =
        fiat'.prices.lookup (NativeToken.ofChain chainId).priceVariable →
      fiat.usdToIdr = fiat'.usdToIdr →
      compute chainId gas quote overrides fiat = compute chainId gas quote overrides fiat') := by
  rw [compute_eq_map, compute_eq_map]
  refine ⟨?_, ?_, fun hprice hdollar => ?_⟩
  · cases priced gas quote overrides with
    | error fault => exact .inl ⟨fault, rfl, rfl⟩
    | ok p => exact .inr ⟨_, _, rfl, rfl, ofCost_fiat ..⟩
  · intro e he
    cases hpriced : priced gas quote overrides with
    | error fault =>
      rw [hpriced] at he
      cases he
    | ok p =>
      rw [hpriced] at he
      cases he
      refine ⟨isSome_fiat_ofCost_iff .., fun amounts hamounts => ?_⟩
      rw [isExact_of_fiat_ofCost _ _ _ _ _ _ _ hamounts]
      rfl
  · unfold ofCost
    rw [FiatSettings.ratesFor?_congr hprice hdollar]

end CostEstimate

/-- The settings of two prices, and of rupiah as they are unless set. -/
def pricesOf (eth matic : Nat) : FiatSettings :=
  ⟨[("ETH_USD_PRICE", .ofNat eth), ("MATIC_USD_PRICE", .ofNat matic)], FiatSettings.defaultUsdToIdr⟩

/-- Where gas is paid in MATIC, the price of ETH changes nothing, and without one of MATIC only the amounts in dollars and
    rupiah are missing. -/
theorem CostEstimate.compute_isolates_fiat_matic : ∃ e,
    compute 137 oneGwei ⟨some oneGwei, none, none, some oneGwei⟩ .none (pricesOf 3000 2) = .ok e ∧
    compute 137 oneGwei ⟨some oneGwei, none, none, some oneGwei⟩ .none (pricesOf 0 2) = .ok e ∧
    compute 137 oneGwei ⟨some oneGwei, none, none, some oneGwei⟩ .none (pricesOf 3000 0) = .ok { e with fiat := none } ∧
    e.fiat.isSome = true := by
  have isolated (eth matic : Nat) :=
    compute_isolates_fiat 137 oneGwei ⟨some oneGwei, none, none, some oneGwei⟩ .none (pricesOf 3000 2) (pricesOf eth matic)
  obtain ⟨e, he⟩ : ∃ e, compute 137 oneGwei ⟨some oneGwei, none, none, some oneGwei⟩ .none (pricesOf 3000 2) = .ok e :=
    exists_compute_eq_ok_iff.mpr ⟨10 ^ 9, rfl, by decide, by rintro _ ⟨⟩; decide⟩
  refine ⟨e, he, (isolated 0 2).2.2 rfl rfl ▸ he, ?_, ?_⟩
  · obtain ⟨fault, h, -⟩ | ⟨_, e', h, h', heq⟩ := (isolated 3000 0).1
    · cases he.symm.trans h
    cases he.symm.trans h
    have hnone : e'.fiat = none := by
      rw [← Option.not_isSome_iff_eq_none, ((compute_isolates_fiat _ _ _ _ _ (pricesOf 0 0)).2.1 e' h').1]
      rintro ⟨price, hprice, habove⟩
      cases hprice
      exact absurd (Binary64.isPositive_iff.mpr habove) (by decide)
    rw [h', heq, hnone]
  · exact ((isolated 0 0).2.1 e he).1.mpr ⟨.ofNat 2, rfl, Binary64.isPositive_iff.mp (by decide)⟩

end SplitterLaunch
