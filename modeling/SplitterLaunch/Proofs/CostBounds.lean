import SplitterLaunch.Cost
import SplitterLaunch.Outcome
import SplitterLaunch.Proofs.Amount

/-! What an estimate comes to, in natural numbers of any size. Two of the products and sums can leave the range
    of quantities, and each has its own fault; the third product is at most the first, and converting the
    bounds never fails, so the faults for these are never reported. -/

namespace SplitterLaunch

namespace Quantity

theorem add?_eq_some_iff {a b q : Quantity} : a.add? b = some q ↔ q.toNat = a.toNat + b.toNat :=
  ofNat?_eq_some_iff

theorem add?_eq_none_iff {a b : Quantity} : a.add? b = none ↔ 2 ^ 256 ≤ a.toNat + b.toNat :=
  ofNat?_eq_none_iff

theorem mul?_eq_some_iff {a b q : Quantity} : a.mul? b = some q ↔ q.toNat = a.toNat * b.toNat :=
  ofNat?_eq_some_iff

theorem mul?_eq_none_iff {a b : Quantity} : a.mul? b = none ↔ 2 ^ 256 ≤ a.toNat * b.toNat :=
  ofNat?_eq_none_iff

theorem toNat_saturate_eq_min (n : Nat) : (saturate n).toNat = Min.min n (2 ^ 256 - 1) := by
  rw [toNat_saturate]
  unfold bound
  split <;> omega

end Quantity

namespace Bounds
variable {α β ε : Type}

theorem tryMap_of_ok {f : α → Except ε β} {g : α → β} (h : ∀ x, f x = .ok (g x)) (b : Bounds α) :
    b.tryMap f = .ok (b.map g) := by
  cases b with
  | exact x =>
    rw [tryMap, h x]
    rfl
  | range x y =>
    rw [tryMap, h x, h y]
    rfl

end Bounds

/-! ### Which fees count -/

namespace Fees

/-- The first fee that is present. -/
def first? (fees : List (Option Quantity)) : Option Quantity := fees.findSome? id

theorem resolve?_eq (quote : FeeQuote) (overrides : FeeOverrides) :
    resolve? quote overrides = (first? [overrides.maxFee, quote.maxFee, quote.gasPrice]).map fun maxFee =>
      ⟨maxFee, (first? [overrides.priorityFee, quote.priorityFee]).getD oneGwei⟩ := by
  obtain ⟨-, suggested, maxFee, gasPrice⟩ := quote
  obtain ⟨maxFee', priorityFee⟩ := overrides
  cases maxFee' <;> cases maxFee <;> cases gasPrice <;> cases priorityFee <;> cases suggested <;> rfl

end Fees

namespace CostEstimate
variable {gas upper baseFee : Quantity} {fees : Fees}

/-! ### The lower bound -/

theorem lowerBound_eq_error (h : 2 ^ 256 ≤ baseFee.toNat + fees.priorityFee.toNat) :
    lowerBound gas fees upper (some baseFee) = .error (.overflow .effectivePrice) := by
  rw [lowerBound, Quantity.add?_eq_none_iff.mpr h]
  rfl

/-- The product of the lower bound is at most that of the upper bound, so it is a quantity if that one is. -/
theorem lowerBound_eq_ok (hu : upper.toNat = gas.toNat * fees.maxFee.toNat)
    (h : baseFee.toNat + fees.priorityFee.toNat < 2 ^ 256) :
    ∃ lower, lowerBound gas fees upper (some baseFee) = .ok lower ∧
      lower.toNat = gas.toNat * min (baseFee.toNat + fees.priorityFee.toNat) fees.maxFee.toNat := by
  cases ha : baseFee.add? fees.priorityFee with
  | none => exact absurd (Quantity.add?_eq_none_iff.mp ha) (Nat.not_le.mpr h)
  | some effective =>
    have heffective := Quantity.add?_eq_some_iff.mp ha
    have hle : gas.toNat * (effective.min fees.maxFee).toNat ≤ gas.toNat * fees.maxFee.toNat := by
      rw [Quantity.toNat_min]
      exact Nat.mul_le_mul_left _ (Nat.min_le_right _ _)
    cases hm : gas.mul? (effective.min fees.maxFee) with
    | none =>
      have hbound := Quantity.mul?_eq_none_iff.mp hm
      exact absurd upper.toNat_lt_pow (Nat.not_lt.mpr (hu ▸ Nat.le_trans hbound hle))
    | some lower =>
      refine ⟨lower, ?_, ?_⟩
      · rw [lowerBound, ha]
        show required .lowerBound (gas.mul? (effective.min fees.maxFee)) = .ok lower
        rw [hm]
        rfl
      · rw [Quantity.mul?_eq_some_iff.mp hm, Quantity.toNat_min, heffective]

/-! ### Converting -/

theorem converted_eq_ok {α : Type} {f : Quantity → Except Units.Fault α} {g : Quantity → α}
    (h : ∀ q, f q = .ok (g q)) (cost : Bounds Quantity) : converted cost f = .ok (cost.map g) := by
  unfold converted
  rw [Bounds.tryMap_of_ok h]
  rfl

theorem inFiat_eq_ok (cost : Bounds Quantity) (rates : Option FiatRates) :
    inFiat cost rates = .ok (rates.map fun r => cost.map fun amount => .worth amount r) := by
  cases rates with
  | none => rfl
  | some r =>
    rw [inFiat, converted_eq_ok fun q => FiatAmount.ofQuantity_eq q r]
    rfl

/-- The estimate that comes to a cost. -/
def ofCost (chainId : UInt64) (gas : Quantity) (quote : FeeQuote) (overrides : FeeOverrides) (fiat : FiatSettings)
    (fees : Fees) (cost : Bounds Quantity) : CostEstimate where
  chainId := chainId
  token := .ofChain chainId
  gas := gas
  quote := quote
  overrides := overrides
  fees := fees
  cost := cost
  costNative := cost.map Quantity.native
  fiat := (fiat.ratesFor? (.ofChain chainId)).map fun r => cost.map fun amount => .worth amount r

section Compute
variable {chainId : UInt64} {quote : FeeQuote} {overrides : FeeOverrides} {fiat : FiatSettings}

theorem compute_of_noFees (h : Fees.resolve? quote overrides = none) :
    compute chainId gas quote overrides fiat = .error .noFees := by
  unfold compute
  rw [h]

/-- Only the two bounds decide how an estimate ends once there are fees. -/
theorem compute_of_fees (h : Fees.resolve? quote overrides = some fees) :
    compute chainId gas quote overrides fiat = (do
      let upper ← required .upperBound (gas.mul? fees.maxFee)
      let lower ← lowerBound gas fees upper quote.baseFee
      return ofCost chainId gas quote overrides fiat fees (.between lower upper)) := by
  unfold compute
  rw [h]
  simp only [converted_eq_ok Quantity.inUnitNamed_ether, inFiat_eq_ok]
  rfl

end Compute

/-! ### All ends of an estimate -/

section Outcome
variable (chainId : UInt64) (gas : Quantity) (quote : FeeQuote) (overrides : FeeOverrides) (fiat : FiatSettings)

/-- The maximum fee that counts. -/
def maxFee? (quote : FeeQuote) (overrides : FeeOverrides) : Option Nat :=
  (Fees.first? [overrides.maxFee, quote.maxFee, quote.gasPrice]).map Quantity.toNat

/-- The priority fee that counts. -/
def priorityFee (quote : FeeQuote) (overrides : FeeOverrides) : Nat :=
  ((Fees.first? [overrides.priorityFee, quote.priorityFee]).map Quantity.toNat).getD (10 ^ 9)

/-- The lower bound in numbers, for a base fee that may be missing. -/
def leastCost (gas maxFee priorityFee : Nat) : Option Nat → Nat
  | some baseFee => gas * min (baseFee + priorityFee) maxFee
  | none => gas * maxFee

theorem leastCost_le (gas maxFee priorityFee : Nat) (baseFee : Option Nat) :
    leastCost gas maxFee priorityFee baseFee ≤ gas * maxFee := by
  cases baseFee with
  | none => exact Nat.le_refl _
  | some b => exact Nat.mul_le_mul_left _ (Nat.min_le_right _ _)

/-- An estimate ends in one of four ways, each under its own condition on the numbers. -/
inductive Ends (gas : Nat) (maxFee : Option Nat) (priorityFee : Nat) (baseFee : Option Nat) :
    Except CostFault CostEstimate → Prop where
  | noFees (h : maxFee = none) : Ends gas maxFee priorityFee baseFee (.error .noFees)
  | upperBound {f : Nat} (h : maxFee = some f) (hf : 2 ^ 256 ≤ gas * f) :
    Ends gas maxFee priorityFee baseFee (.error (.overflow .upperBound))
  | effectivePrice {f b : Nat} (h : maxFee = some f) (hf : gas * f < 2 ^ 256) (hb : baseFee = some b)
      (hp : 2 ^ 256 ≤ b + priorityFee) :
    Ends gas maxFee priorityFee baseFee (.error (.overflow .effectivePrice))
  | estimate {f : Nat} {e : CostEstimate} (h : maxFee = some f) (hf : gas * f < 2 ^ 256)
      (hp : ∀ b, baseFee = some b → b + priorityFee < 2 ^ 256) (hupper : e.cost.upper.toNat = gas * f)
      (hlower : e.cost.lower.toNat = leastCost gas f priorityFee baseFee) :
    Ends gas maxFee priorityFee baseFee (.ok e)

theorem fees_of_maxFee? {quote : FeeQuote} {overrides : FeeOverrides} {f : Nat} (h : maxFee? quote overrides = some f) :
    ∃ fees, Fees.resolve? quote overrides = some fees ∧ fees.maxFee.toNat = f ∧
      fees.priorityFee.toNat = priorityFee quote overrides := by
  obtain ⟨maxFee, hmax, rfl⟩ := Option.map_eq_some_iff.mp h
  refine ⟨_, by rw [Fees.resolve?_eq, hmax]; rfl, rfl, ?_⟩
  unfold priorityFee
  cases Fees.first? [overrides.priorityFee, quote.priorityFee] <;> rfl

theorem compute_ends :
    Ends gas.toNat (maxFee? quote overrides) (priorityFee quote overrides) (quote.baseFee.map Quantity.toNat)
      (compute chainId gas quote overrides fiat) := by
  cases hmax : maxFee? quote overrides with
  | none =>
    have hfees : Fees.resolve? quote overrides = none := by
      rw [Fees.resolve?_eq, Option.map_eq_none_iff.mp hmax]
      rfl
    rw [compute_of_noFees hfees]
    exact .noFees rfl
  | some f =>
    obtain ⟨fees, hfees, rfl, hpriority⟩ := fees_of_maxFee? hmax
    rw [compute_of_fees hfees, ← hpriority]
    cases hm : gas.mul? fees.maxFee with
    | none => exact .upperBound rfl (Quantity.mul?_eq_none_iff.mp hm)
    | some upper =>
      have hupper := Quantity.mul?_eq_some_iff.mp hm
      have hlt : gas.toNat * fees.maxFee.toNat < 2 ^ 256 := hupper ▸ upper.toNat_lt_pow
      -- What is left depends on the lower bound alone.
      show Ends _ _ _ _ (lowerBound gas fees upper quote.baseFee >>= fun lower =>
        .ok (ofCost chainId gas quote overrides fiat fees (.between lower upper)))
      cases quote.baseFee with
      | none =>
        refine .estimate rfl hlt (fun _ h => by cases h) ?_ ?_
        · exact (congrArg Quantity.toNat (Bounds.upper_between upper upper)).trans hupper
        · exact (congrArg Quantity.toNat (Bounds.lower_between upper upper)).trans hupper
      | some baseFee =>
        by_cases hp : baseFee.toNat + fees.priorityFee.toNat < 2 ^ 256
        · obtain ⟨lower, hlower, hvalue⟩ := lowerBound_eq_ok hupper hp
          rw [hlower]
          refine .estimate rfl hlt (fun _ h => by cases h; exact hp) ?_ ?_
          · exact (congrArg Quantity.toNat (Bounds.upper_between lower upper)).trans hupper
          · exact (congrArg Quantity.toNat (Bounds.lower_between lower upper)).trans hvalue
        · rw [lowerBound_eq_error (Nat.not_lt.mp hp)]
          exact .effectivePrice rfl hlt rfl (Nat.not_lt.mp hp)

/-- With all numbers read as natural ones of any size, there is no estimate exactly when no maximum fee is
    present, else when the upper bound leaves the range of quantities, else when base fee and priority fee
    together do; and every estimate has the bounds that the numbers give. -/
theorem compute_outcome :
    (compute chainId gas quote overrides fiat = .error .noFees ↔ maxFee? quote overrides = none) ∧
    (compute chainId gas quote overrides fiat = .error (.overflow .upperBound) ↔
      ∃ f, maxFee? quote overrides = some f ∧ 2 ^ 256 ≤ gas.toNat * f) ∧
    (compute chainId gas quote overrides fiat = .error (.overflow .effectivePrice) ↔
      ∃ f b, maxFee? quote overrides = some f ∧ gas.toNat * f < 2 ^ 256 ∧ quote.baseFee.map Quantity.toNat = some b ∧
        2 ^ 256 ≤ b + priorityFee quote overrides) ∧
    (∀ fault, compute chainId gas quote overrides fiat = .error fault →
      fault = .noFees ∨ fault = .overflow .upperBound ∨ fault = .overflow .effectivePrice) ∧
    (∀ e, compute chainId gas quote overrides fiat = .ok e → ∃ f, maxFee? quote overrides = some f ∧
      e.cost.upper.toNat = gas.toNat * f ∧
      e.cost.lower.toNat =
        leastCost gas.toNat f (priorityFee quote overrides) (quote.baseFee.map Quantity.toNat) ∧
      e.cost.lower.toNat ≤ e.cost.upper.toNat) := by
  have ends := compute_ends chainId gas quote overrides fiat
  generalize compute chainId gas quote overrides fiat = outcome at ends ⊢
  cases ends with
  | noFees h => exact ⟨by simp [h], by simp [h], by simp [h], by simp, by simp⟩
  | upperBound h hf =>
    refine ⟨by simp [h], ⟨fun _ => ⟨_, h, hf⟩, fun _ => rfl⟩, ⟨by simp, ?_⟩, by simp, by simp⟩
    rintro ⟨f', _, h', hlt, -⟩
    cases h.symm.trans h'
    exact absurd hlt (Nat.not_lt.mpr hf)
  | effectivePrice h hf hb hp =>
    refine ⟨by simp [h], ⟨by simp, ?_⟩, ⟨fun _ => ⟨_, _, h, hf, hb, hp⟩, fun _ => rfl⟩, by simp, by simp⟩
    rintro ⟨f', h', hle⟩
    cases h.symm.trans h'
    exact absurd hf (Nat.not_lt.mpr hle)
  | estimate h hf hp hupper hlower =>
    refine ⟨by simp [h], ⟨by simp, ?_⟩, ⟨by simp, ?_⟩, by simp, ?_⟩
    · rintro ⟨f', h', hle⟩
      cases h.symm.trans h'
      exact absurd hf (Nat.not_lt.mpr hle)
    · rintro ⟨_, b, -, -, hb, hle⟩
      exact absurd (hp b hb) (Nat.not_lt.mpr hle)
    · rintro e ⟨⟩
      refine ⟨_, h, hupper, hlower, ?_⟩
      rw [hupper, hlower]
      exact leastCost_le _ _ _ _

end Outcome

section
variable {chainId : UInt64} {gas : Quantity} {quote : FeeQuote} {overrides : FeeOverrides} {fiat : FiatSettings}
  {e : CostEstimate}

/-- Every estimate is that of a cost. -/
theorem exists_eq_ofCost (h : compute chainId gas quote overrides fiat = .ok e) :
    ∃ fees lower upper, e = ofCost chainId gas quote overrides fiat fees (.between lower upper) := by
  cases hfees : Fees.resolve? quote overrides with
  | none =>
    rw [compute_of_noFees hfees] at h
    cases h
  | some fees =>
    rw [compute_of_fees hfees] at h
    obtain ⟨upper, -, h⟩ := Outcome.bind_eq_ok_iff.mp h
    obtain ⟨lower, -, h⟩ := Outcome.bind_eq_ok_iff.mp h
    cases h
    exact ⟨fees, lower, upper, rfl⟩

theorem exists_cost_eq_between (h : compute chainId gas quote overrides fiat = .ok e) :
    ∃ lower upper, e.cost = .between lower upper := by
  obtain ⟨-, lower, upper, rfl⟩ := exists_eq_ofCost h
  exact ⟨lower, upper, rfl⟩

theorem exists_compute_eq_ok_iff : (∃ e, compute chainId gas quote overrides fiat = .ok e) ↔
    ∃ f, maxFee? quote overrides = some f ∧ gas.toNat * f < 2 ^ 256 ∧
      ∀ b, quote.baseFee.map Quantity.toNat = some b → b + priorityFee quote overrides < 2 ^ 256 := by
  have ends := compute_ends chainId gas quote overrides fiat
  generalize compute chainId gas quote overrides fiat = outcome at ends ⊢
  cases ends with
  | noFees h => simp [h]
  | upperBound h hf =>
    refine ⟨by simp, ?_⟩
    rintro ⟨f, h', hlt, -⟩
    cases h.symm.trans h'
    exact absurd hlt (Nat.not_lt.mpr hf)
  | effectivePrice h hf hb hp =>
    refine ⟨by simp, ?_⟩
    rintro ⟨-, -, -, hlt⟩
    exact absurd (hlt _ hb) (Nat.not_lt.mpr hp)
  | estimate h hf hp _ _ => exact ⟨fun _ => ⟨_, h, hf, hp⟩, fun _ => ⟨_, rfl⟩⟩

theorem isExact_cost_iff (h : compute chainId gas quote overrides fiat = .ok e) :
    e.cost.isExact = true ↔ e.cost.lower.toNat = e.cost.upper.toNat := by
  obtain ⟨lower, upper, hcost⟩ := exists_cost_eq_between h
  rw [hcost, Bounds.isExact_between, Bounds.lower_between, Bounds.upper_between]
  exact ⟨congrArg _, Quantity.ext⟩

end

end CostEstimate
end SplitterLaunch
