import SplitterLaunch.Proofs.Amount
import SplitterLaunch.Proofs.Json.Gaps
import SplitterLaunch.Proofs.Settings.Reading

/-! Amounts in dollars and rupiah that leave the range of finite numbers. Under the rates of settings that pass their
    checks an amount is never negative and never a NaN, so what is not finite is infinity. -/

namespace SplitterLaunch

namespace Binary64

/-- Whether a number has no sign and is not finite only as infinity. -/
def IsCapped (x : Binary64) : Prop := x.isNegative = false ∧ (x.isFinite = true ∨ x = infinity false)

theorem nearestBits_le (n d : Nat) : nearestBits n d ≤ infinityBits := by
  unfold nearestBits
  split
  · exact Nat.zero_le _
  · exact Nat.min_le_right _ _

theorem isCapped_nearest (y : Rat) : IsCapped (nearest false y) := by
  have hle := nearestBits_le y.num.natAbs y.den
  have hlt := Nat.lt_of_le_of_lt hle infinityBits_lt
  have hbits : (nearest false y).bits.toNat = nearestBits y.num.natAbs y.den := by
    rw [nearest, toNat_ofParts _ hlt]
    exact Nat.zero_add _
  constructor
  · rw [isNegative, hbits]
    exact decide_eq_false (Nat.not_le.mpr hlt)
  · rcases Nat.lt_or_eq_of_le hle with h | h
    · exact .inl (isFinite_ofParts h)
    · right
      rw [nearest, h]
      rfl

/-- A positive finite factor neither turns infinity into a NaN nor gives a sign. -/
theorem IsCapped.mul {x y : Binary64} (hx : x.IsCapped) (hfinite : y.isFinite = true) (hpos : y.isPositive = true) :
    (x.mul y).IsCapped := by
  obtain ⟨hsign, hcases⟩ := hx
  simp only [isPositive, Bool.and_eq_true, Bool.not_eq_true'] at hpos
  obtain ⟨⟨hy, hzero⟩, hnan⟩ := hpos
  unfold Binary64.mul
  simp only [hsign, hy, hnan, isInfinite_of_isFinite hfinite, bne_self_eq_false, Bool.or_false, hzero]
  rcases hcases with hx | rfl
  · simp only [isNaN_of_isFinite hx, isInfinite_of_isFinite hx, Bool.false_eq_true, if_false]
    exact isCapped_nearest _
  · have hn : (infinity false).isNaN = false := by decide
    have hi : (infinity false).isInfinite = true := by decide
    have hz : (infinity false).isZero = false := by decide
    simp only [hn, hi, hz, Bool.false_eq_true, if_false, if_true]
    exact ⟨by decide, .inr rfl⟩

theorem IsCapped.eq_of_finite? {x y : Binary64} (hx : x.IsCapped) (hy : y.IsCapped) (h : x.finite? = y.finite?) :
    x = y := by
  have hinfinity : ¬ (infinity false).isFinite = true := by decide
  unfold finite? at h
  rcases hx.2 with hx | rfl <;> rcases hy.2 with hy | rfl
  · rw [if_pos hx, if_pos hy] at h
    exact Option.some.inj h
  · rw [if_pos hx, if_neg hinfinity] at h
    cases h
  · rw [if_pos hy, if_neg hinfinity] at h
    cases h
  · rfl

end Binary64

/-- Whether rates are finite numbers above zero. -/
structure FiatRates.IsSound (rates : FiatRates) : Prop where
  usdFinite : rates.usdPerNative.isFinite = true
  usdPositive : rates.usdPerNative.isPositive = true
  idrFinite : rates.usdToIdr.isFinite = true
  idrPositive : rates.usdToIdr.isPositive = true

namespace FiatSettings

/-- Whether prices are finite, and the price of a dollar above zero. -/
structure IsSound (fiat : FiatSettings) : Prop where
  prices : ∀ p ∈ fiat.prices, p.2.isFinite = true
  finite : fiat.usdToIdr.isFinite = true
  positive : fiat.usdToIdr.isPositive = true

/-- A price that is not above zero counts as none, so the rates that there are can be multiplied with. -/
theorem IsSound.ratesFor? {fiat : FiatSettings} (h : fiat.IsSound) {token : NativeToken} {rates : FiatRates}
    (hrates : fiat.ratesFor? token = some rates) : rates.IsSound := by
  obtain ⟨price, hprice, hrates⟩ := Option.bind_eq_some_iff.mp hrates
  split at hrates
  · rename_i hpositive
    cases hrates
    have hmem : (token.priceVariable, price) ∈ fiat.prices := by
      obtain ⟨before, after, heq, -⟩ := List.lookup_eq_some_iff.mp hprice
      simp [heq]
    exact ⟨h.prices _ hmem, hpositive, h.finite, h.positive⟩
  · cases hrates

end FiatSettings

namespace Settings
variable {s : Settings}

/-- The rates that a run works with are sound. -/
theorem isSound_fiat {env : Environment} (h : ofEnvironment env = .ok s) : s.fiat.IsSound := by
  have hchecked := (ofEnvironment_eq_ok_iff.mp h).2
  exact ⟨fun p hp => (hchecked.prices p hp).1, hchecked.usdToIdr.1, hchecked.usdToIdr.2⟩

end Settings

namespace FiatAmount

/-- Whether both amounts are capped. -/
def IsCapped (a : FiatAmount) : Prop := a.usd.IsCapped ∧ a.idr.IsCapped

theorem isCapped_worth (amount : Quantity) {rates : FiatRates} (h : rates.IsSound) : (worth amount rates).IsCapped := by
  have husd : (worth amount rates).usd.IsCapped := (Binary64.isCapped_nearest _).mul h.usdFinite h.usdPositive
  exact ⟨husd, husd.mul h.idrFinite h.idrPositive⟩

/-- An amount as far as it is finite. -/
def finite? (a : FiatAmount) : Option Binary64 × Option Binary64 := (a.usd.finite?, a.idr.finite?)

theorem IsCapped.eq_of_finite? {a a' : FiatAmount} (h : a.IsCapped) (h' : a'.IsCapped) (heq : a.finite? = a'.finite?) :
    a = a' := by
  obtain ⟨husd, hidr⟩ := Prod.mk.inj heq
  exact congrArg₂ FiatAmount.mk (h.1.eq_of_finite? h'.1 husd) (h.2.eq_of_finite? h'.2 hidr)

end FiatAmount
end SplitterLaunch
