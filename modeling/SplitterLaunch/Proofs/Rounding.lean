import Mathlib.Algebra.Order.Field.Rat
import Mathlib.Tactic.Linarith
import Mathlib.Tactic.Ring
import SplitterLaunch.Proofs.Json.Decimals

/-! How far rounding goes. A number below the middle of the gap after the greatest finite word is rounded to a
    finite word, and a whole number to one that is greater by no more than its share of the last bit. -/

namespace SplitterLaunch
namespace Binary64

/-- The middle of the gap after the number `(2 ^ 53 - 1) * 2 ^ (k + 1)`. -/
def gapMiddle (k : Nat) : Nat := Nat.pow 2 (k + 54) - Nat.pow 2 k

/-- The middle of the gap after the greatest finite word: from here on numbers are rounded to infinity. -/
def overflow : Nat := gapMiddle 970

/-! ### Halves and exponents -/

theorem divHalfEven_le (n d : Nat) : 2 * (d * divHalfEven n d) ≤ 2 * n + d := by
  have hdiv := Nat.div_add_mod n d
  unfold divHalfEven
  simp only
  split
  · rw [Nat.mul_add]
    omega
  · omega

theorem gapMiddle_le (k : Nat) : gapMiddle k ≤ Nat.pow 2 (k + 54) := Nat.sub_le _ _

theorem cast_gapMiddle (k : Nat) : (gapMiddle k : Rat) = 2 ^ 53 * 2 ^ ((k + 1 : Nat) : Int) - 2 ^ ((k + 1 : Nat) : Int) / 2 := by
  have hpow (j : Nat) : ((Nat.pow 2 j : Nat) : Rat) = 2 ^ j := Nat.cast_pow 2 j
  have hle : Nat.pow 2 k ≤ Nat.pow 2 (k + 54) := Nat.pow_le_pow_right (by decide) (Nat.le_add_right k 54)
  unfold gapMiddle
  rw [Nat.cast_sub hle, hpow, hpow, zpow_natCast]
  ring

/-- A comparison of two whole numbers, scaled by the two halves of an exponent. -/
theorem scaled_le_scaled_iff (n d : Nat) (e : Int) :
    d * Nat.pow 2 e.toNat ≤ n * Nat.pow 2 (-e).toNat ↔ (d : Rat) * 2 ^ e ≤ n := by
  have hpos : (0 : Rat) < 2 ^ (-e).toNat := pow_pos (by decide) _
  have hsplit : (2 : Rat) ^ e = 2 ^ e.toNat / 2 ^ (-e).toNat := by
    rw [← zpow_natCast, ← zpow_natCast, ← zpow_sub₀ (by decide)]
    congr 1
    omega
  rw [hsplit, ← mul_div_assoc, div_le_iff₀ hpos, Nat.pow_eq, Nat.pow_eq]
  exact_mod_cast Iff.rfl

theorem zpow_log2_le {n : Nat} (hn : n ≠ 0) : (2 : Rat) ^ (n.log2 : Int) ≤ n := by
  rw [zpow_natCast]
  exact_mod_cast Nat.log2_self_le hn

theorem lt_zpow_log2 (n : Nat) : (n : Rat) < 2 ^ ((n.log2 : Int) + 1) := by
  have h : (2 : Rat) ^ ((n.log2 : Int) + 1) = 2 ^ (n.log2 + 1) := by exact_mod_cast zpow_natCast (2 : Rat) (n.log2 + 1)
  rw [h]
  exact_mod_cast Nat.lt_log2_self

theorem lt_zpow_logRatio {n d : Nat} (hd : d ≠ 0) : (n : Rat) < d * 2 ^ (logRatio n d + 1) := by
  unfold logRatio
  simp only
  split
  · calc (n : Rat) < 2 ^ ((n.log2 : Int) + 1) := lt_zpow_log2 n
      _ = 2 ^ (d.log2 : Int) * 2 ^ ((n.log2 : Int) - d.log2 + 1) := by
        rw [← zpow_add₀ (by decide)]
        congr 1
        omega
      _ ≤ d * 2 ^ ((n.log2 : Int) - d.log2 + 1) :=
        mul_le_mul_of_nonneg_right (zpow_log2_le hd) (zpow_nonneg (by decide) _)
  · rename_i h
    rw [scaled_le_scaled_iff, not_le] at h
    rwa [Int.sub_add_cancel]

theorem zpow_logRatio_le {n d : Nat} (hn : n ≠ 0) : (d : Rat) * 2 ^ logRatio n d ≤ n := by
  unfold logRatio
  simp only
  split
  · rename_i h
    exact (scaled_le_scaled_iff n d _).mp h
  · calc (d : Rat) * 2 ^ ((n.log2 : Int) - d.log2 - 1)
        ≤ 2 ^ ((d.log2 : Int) + 1) * 2 ^ ((n.log2 : Int) - d.log2 - 1) :=
          mul_le_mul_of_nonneg_right (lt_zpow_log2 d).le (zpow_nonneg (by decide) _)
      _ = 2 ^ (n.log2 : Int) := by
        rw [← zpow_add₀ (by decide)]
        congr 1
        omega
      _ ≤ n := zpow_log2_le hn

/-- The number that a ratio is rounded to is no more than half a last place above it. -/
theorem divHalfEven_scaled_le {n d : Nat} (hd : d ≠ 0) (e : Int) :
    (divHalfEven (n * Nat.pow 2 (-e).toNat) (d * Nat.pow 2 e.toNat) : Rat) * 2 ^ e ≤ n / d + 2 ^ e / 2 := by
  have hle := divHalfEven_le (n * Nat.pow 2 (-e).toNat) (d * Nat.pow 2 e.toNat)
  generalize divHalfEven (n * Nat.pow 2 (-e).toNat) (d * Nat.pow 2 e.toNat) = m at hle ⊢
  have hsplit : (2 : Rat) ^ e * 2 ^ (-e).toNat = 2 ^ e.toNat := by
    rw [← zpow_natCast, ← zpow_natCast, ← zpow_add₀ (by decide)]
    congr 1
    omega
  have hcast : 2 * ((d : Rat) * 2 ^ e.toNat * m) ≤ 2 * (n * 2 ^ (-e).toNat) + d * 2 ^ e.toNat := by
    simp only [Nat.pow_eq] at hle
    exact_mod_cast hle
  have hpow : (0 : Rat) < 2 ^ (-e).toNat := pow_pos (by decide) _
  have hpos : (0 : Rat) < d := Nat.cast_pos.mpr (Nat.pos_of_ne_zero hd)
  rw [← hsplit] at hcast
  have hscaled : 2 * (d * 2 ^ e * m) ≤ 2 * (n : Rat) + d * 2 ^ e := by
    refine le_of_mul_le_mul_right ?_ hpow
    linarith
  rw [div_add_div _ _ hpos.ne' (by decide), le_div_iff₀ (by linarith)]
  linarith

/-- The exponent at which a ratio is rounded. -/
def lastPlace (n d : Nat) : Int := max (logRatio n d - 52) (-1074)

theorem nearestBits_eq {n d : Nat} (hn : n ≠ 0) : nearestBits n d =
    min ((lastPlace n d + 1074).toNat * Nat.pow 2 52 +
      divHalfEven (n * Nat.pow 2 (-lastPlace n d).toNat) (d * Nat.pow 2 (lastPlace n d).toNat)) infinityBits := by
  unfold nearestBits
  rw [if_neg hn]
  rfl

/-! ### No rounding to infinity -/

theorem logRatio_lt {n d k : Nat} (hn : n ≠ 0) (hd : d ≠ 0) (h : n < d * Nat.pow 2 k) :
    logRatio n d < k := by
  have hpos : (0 : Rat) < d := Nat.cast_pos.mpr (Nat.pos_of_ne_zero hd)
  have hbound : (n : Rat) < d * 2 ^ (k : Int) := by
    rw [zpow_natCast]
    rw [Nat.pow_eq] at h
    exact_mod_cast h
  have hlt := lt_of_mul_lt_mul_left ((zpow_logRatio_le hn).trans_lt hbound) hpos.le
  exact (zpow_lt_zpow_iff_right₀ (by decide)).mp hlt

theorem lastPlace_le {n d k : Nat} (hn : n ≠ 0) (hd : d ≠ 0) (h : n < gapMiddle k * d) : lastPlace n d ≤ k + 1 := by
  have hbound : n < d * Nat.pow 2 (k + 54) := by
    rw [Nat.mul_comm d]
    exact Nat.lt_of_lt_of_le h (Nat.mul_le_mul_right d (gapMiddle_le k))
  have hlog := logRatio_lt hn hd hbound
  unfold lastPlace
  omega

/-- The significand is one that a word can hold, but for a carry. -/
theorem divHalfEven_le_two_pow {n d : Nat} (hd : d ≠ 0) :
    divHalfEven (n * Nat.pow 2 (-lastPlace n d).toNat) (d * Nat.pow 2 (lastPlace n d).toNat) ≤ 2 ^ 53 := by
  have hround := divHalfEven_scaled_le (n := n) hd (lastPlace n d)
  generalize divHalfEven (n * Nat.pow 2 (-lastPlace n d).toNat) (d * Nat.pow 2 (lastPlace n d).toNat) = m at hround ⊢
  have hpos : (0 : Rat) < d := Nat.cast_pos.mpr (Nat.pos_of_ne_zero hd)
  have hpow : (0 : Rat) < 2 ^ lastPlace n d := zpow_pos (by decide) _
  have hratio : (n : Rat) / d < 2 ^ 53 * 2 ^ lastPlace n d := by
    rw [div_lt_iff₀ hpos]
    calc (n : Rat) < d * 2 ^ (logRatio n d + 1) := lt_zpow_logRatio hd
      _ ≤ d * 2 ^ (53 + lastPlace n d) := by
        refine mul_le_mul_of_nonneg_left (zpow_le_zpow_right₀ (by decide) ?_) hpos.le
        unfold lastPlace
        omega
      _ = 2 ^ 53 * 2 ^ lastPlace n d * d := by
        rw [zpow_add₀ (by decide)]
        norm_cast
        ring
  have hlt : (m : Rat) * 2 ^ lastPlace n d < (2 ^ 53 + 1) * 2 ^ lastPlace n d := by linarith
  have hm : (m : Rat) < 2 ^ 53 + 1 := lt_of_mul_lt_mul_right hlt hpow.le
  exact Nat.lt_succ_iff.mp (by exact_mod_cast hm)

theorem nearestBits_lt {n d : Nat} (hd : d ≠ 0) (h : n < overflow * d) : nearestBits n d < infinityBits := by
  by_cases hn : n = 0
  · unfold nearestBits
    rw [if_pos hn]
    decide
  have hplace : lastPlace n d ≤ 971 := lastPlace_le hn hd h
  have hm := divHalfEven_le_two_pow (n := n) hd
  rw [nearestBits_eq hn]
  refine Nat.lt_of_le_of_lt (Nat.min_le_left _ _) ?_
  rcases Int.lt_or_eq_of_le hplace with hplace | hplace
  · have : (lastPlace n d + 1074).toNat ≤ 2044 := by omega
    unfold infinityBits
    simp only [Nat.pow_eq] at hm ⊢
    omega
  · have hpos : (0 : Rat) < d := Nat.cast_pos.mpr (Nat.pos_of_ne_zero hd)
    have hround := divHalfEven_scaled_le (n := n) hd (lastPlace n d)
    rw [hplace] at hround ⊢
    generalize divHalfEven (n * Nat.pow 2 (-971 : Int).toNat) (d * Nat.pow 2 (971 : Int).toNat) = m at hround hm ⊢
    have hratio : (n : Rat) / d < overflow := by
      rw [div_lt_iff₀ hpos]
      exact_mod_cast h
    have hcast : (overflow : Rat) = 2 ^ 53 * 2 ^ (971 : Int) - 2 ^ (971 : Int) / 2 := cast_gapMiddle 970
    rw [hcast] at hratio
    have hlt : (m : Rat) * 2 ^ (971 : Int) < 2 ^ 53 * 2 ^ (971 : Int) := by linarith
    have hm : (m : Rat) < 2 ^ 53 := lt_of_mul_lt_mul_right hlt (zpow_nonneg (by decide) _)
    have : m < 2 ^ 53 := by exact_mod_cast hm
    unfold infinityBits
    simp only [Nat.pow_eq] at this ⊢
    omega

theorem toNat_ofParts (negative : Bool) {bits : Nat} (h : bits < Nat.pow 2 63) :
    (ofParts negative bits).bits.toNat = (if negative then Nat.pow 2 63 else 0) + bits := by
  unfold ofParts
  rw [UInt64.toNat_ofNat_of_lt']
  simp only [Nat.pow_eq, UInt64.size] at h ⊢
  split <;> omega

theorem infinityBits_lt : infinityBits < Nat.pow 2 63 := by decide

theorem isFinite_ofParts {negative : Bool} {bits : Nat} (h : bits < infinityBits) :
    (ofParts negative bits).isFinite = true := by
  have hfield : (ofParts negative bits).field ≠ 2047 := by
    unfold field
    rw [toNat_ofParts negative (h.trans infinityBits_lt)]
    unfold infinityBits at h
    simp only [Nat.pow_eq] at h ⊢
    split <;> omega
  simp [isFinite, hfield]

theorem isFinite_nearest {negative : Bool} {y : Rat} (hy : 0 ≤ y) (h : y < overflow) :
    (nearest negative y).isFinite = true := by
  refine isFinite_ofParts (nearestBits_lt y.den_nz ?_)
  have hnum : (y.num.natAbs : Rat) = y.num := by
    rw [← Int.cast_natCast, Int.natAbs_of_nonneg (Rat.num_nonneg.mpr hy)]
  have hden : (0 : Rat) < y.den := Nat.cast_pos.mpr y.den_pos
  have hlt : (y.num.natAbs : Rat) < overflow * y.den := by
    rw [hnum, ← div_lt_iff₀ hden, Rat.num_div_den]
    exact h
  exact_mod_cast hlt

theorem magnitude_nonneg (x : Binary64) : 0 ≤ x.magnitude := by
  unfold magnitude
  rw [scaled_eq]
  exact mul_nonneg (Nat.cast_nonneg _) (zpow_nonneg (by decide) _)

theorem isInfinite_of_isFinite {x : Binary64} (h : x.isFinite = true) : x.isInfinite = false := by
  have hfield : x.field ≠ 2047 := by simpa [isFinite] using h
  simp [isInfinite, hfield]

theorem isNaN_of_isFinite {x : Binary64} (h : x.isFinite = true) : x.isNaN = false := by
  have hfield : x.field ≠ 2047 := by simpa [isFinite] using h
  simp [isNaN, hfield]

theorem isFinite_mul {x y : Binary64} (hx : x.isFinite = true) (hy : y.isFinite = true)
    (h : x.magnitude * y.magnitude < overflow) : (x.mul y).isFinite = true := by
  unfold mul
  simp only [isNaN_of_isFinite, isInfinite_of_isFinite, hx, hy, Bool.or_self, Bool.false_eq_true, if_false]
  exact isFinite_nearest (mul_nonneg x.magnitude_nonneg y.magnitude_nonneg) h

/-! ### Whole numbers -/

theorem magnitude_of_normal {e f : Nat} (he : e ≤ 2045) (hf : f < 2 ^ 52) :
    (ofParts false ((e + 1) * Nat.pow 2 52 + f)).magnitude = (2 ^ 52 + f : Nat) * 2 ^ ((e : Int) - 1074) := by
  have hbits : (e + 1) * Nat.pow 2 52 + f < Nat.pow 2 63 := by
    simp only [Nat.pow_eq]
    omega
  have htoNat := toNat_ofParts false hbits
  generalize ofParts false ((e + 1) * Nat.pow 2 52 + f) = x at htoNat
  simp only [Bool.false_eq_true, if_false, Nat.zero_add, Nat.pow_eq] at htoNat
  have hfield : x.field = e + 1 := by
    unfold field
    simp only [htoNat, Nat.pow_eq]
    omega
  have hfraction : x.fraction = f := by
    unfold fraction
    simp only [htoNat, Nat.pow_eq]
    omega
  have hsignificand : x.significand = 2 ^ 52 + f := by
    unfold significand
    rw [hfield, hfraction, if_neg (by omega), Nat.pow_eq]
  have hexponent : x.exponent = (e : Int) - 1074 := by
    unfold exponent
    rw [hfield]
    omega
  unfold magnitude
  rw [scaled_eq, hsignificand, hexponent]
  rfl

/-- The word of a significand and its exponent, whether or not the significand carried. -/
theorem magnitude_ofParts {e m : Nat} (he : e ≤ 2044) (hlow : 2 ^ 52 ≤ m) (hhigh : m ≤ 2 ^ 53) :
    (ofParts false (e * Nat.pow 2 52 + m)).magnitude = m * 2 ^ ((e : Int) - 1074) := by
  rcases Nat.lt_or_eq_of_le hhigh with hm | rfl
  · have hparts : e * Nat.pow 2 52 + m = (e + 1) * Nat.pow 2 52 + (m - 2 ^ 52) := by
      simp only [Nat.pow_eq]
      omega
    rw [hparts, magnitude_of_normal (by omega) (by omega), Nat.add_sub_cancel' hlow]
  · have hparts : e * Nat.pow 2 52 + 2 ^ 53 = (e + 1 + 1) * Nat.pow 2 52 + 0 := by
      simp only [Nat.pow_eq]
      omega
    have hexponent : ((e + 1 : Nat) : Int) - 1074 = (e : Int) - 1074 + 1 := by omega
    rw [hparts, magnitude_of_normal (by omega) (by decide), hexponent, zpow_add_one₀ (by decide)]
    push_cast
    ring

theorem le_divHalfEven (n d : Nat) : n / d ≤ divHalfEven n d := by
  unfold divHalfEven
  simp only
  split <;> omega

theorem lastPlace_one {n : Nat} (hn : n ≠ 0) : lastPlace n 1 = (n.log2 : Int) - 52 := by
  have hlog : Nat.log2 1 = 0 := by decide
  have hle : 1 * Nat.pow 2 (n.log2 : Int).toNat ≤ n * Nat.pow 2 (-(n.log2 : Int)).toNat :=
    (scaled_le_scaled_iff n 1 n.log2).mpr (by simpa using zpow_log2_le hn)
  unfold lastPlace logRatio
  rw [hlog, Nat.cast_zero, Int.sub_zero]
  simp only [hle, if_true]
  omega

/-- The significand that a whole number is rounded to. -/
def rounded (n : Nat) : Nat := divHalfEven (n * Nat.pow 2 (-lastPlace n 1).toNat) (1 * Nat.pow 2 (lastPlace n 1).toNat)

theorem magnitude_ofNat {n : Nat} (hn : n ≠ 0) (h : n < 2 ^ 64) :
    (ofNat n).magnitude = rounded n * 2 ^ lastPlace n 1 := by
  have hplace := lastPlace_one hn
  have hlog : n.log2 < 64 := (Nat.log2_lt hn).mpr h
  have hbits : nearestBits n 1 < infinityBits := nearestBits_lt Nat.one_ne_zero (h.trans (by decide +kernel))
  have heq : nearestBits n 1 = min ((lastPlace n 1 + 1074).toNat * Nat.pow 2 52 + rounded n) infinityBits :=
    nearestBits_eq hn
  have hlow : 2 ^ 52 ≤ rounded n := by
    refine Nat.le_trans ?_ (le_divHalfEven _ _)
    rw [Nat.one_mul, Nat.le_div_iff_mul_le (show 0 < Nat.pow 2 _ from Nat.pow_pos Nat.two_pos), scaled_le_scaled_iff]
    calc ((2 ^ 52 : Nat) : Rat) * 2 ^ lastPlace n 1 = 2 ^ (n.log2 : Int) := by
          rw [hplace, zpow_sub₀ (by decide)]
          push_cast
          exact mul_div_cancel₀ _ (by decide)
      _ ≤ n := zpow_log2_le hn
  have hmagnitude := magnitude_ofParts (e := (lastPlace n 1 + 1074).toNat) (by omega) hlow
    (divHalfEven_le_two_pow Nat.one_ne_zero)
  have hmin : min ((lastPlace n 1 + 1074).toNat * Nat.pow 2 52 + rounded n) infinityBits =
      (lastPlace n 1 + 1074).toNat * Nat.pow 2 52 + rounded n := by omega
  have hexponent : (((lastPlace n 1 + 1074).toNat : Nat) : Int) - 1074 = lastPlace n 1 := by omega
  unfold ofNat
  rw [heq, hmin, hmagnitude, hexponent]

theorem isFinite_ofNat {n : Nat} (h : n < 2 ^ 64) : (ofNat n).isFinite = true :=
  isFinite_ofParts (nearestBits_lt Nat.one_ne_zero (h.trans (by decide +kernel)))

/-- A whole number is rounded up by no more than its `2 ^ 53`rd part. -/
theorem magnitude_ofNat_le {n : Nat} (h : n < 2 ^ 64) : (ofNat n).magnitude ≤ (n + n / 2 ^ 53 : Nat) := by
  by_cases hn : n = 0
  · subst hn
    decide +kernel
  have hplace := lastPlace_one hn
  have hround := divHalfEven_scaled_le (n := n) Nat.one_ne_zero (lastPlace n 1)
  have hwhole := divHalfEven_le (n * Nat.pow 2 (-lastPlace n 1).toNat) (1 * Nat.pow 2 (lastPlace n 1).toNat)
  rw [magnitude_ofNat hn h]
  unfold rounded
  by_cases hsmall : n.log2 ≤ 52
  · -- the last place is no more than one, so nothing is rounded
    obtain ⟨k, hk⟩ : ∃ k : Nat, lastPlace n 1 = -(k : Int) := ⟨52 - n.log2, by omega⟩
    rw [hk] at hwhole ⊢
    simp only [Int.neg_neg, Int.toNat_natCast, Int.toNat_neg_natCast] at hwhole ⊢
    generalize divHalfEven (n * Nat.pow 2 k) (1 * Nat.pow 2 0) = m at hwhole ⊢
    have hm : m ≤ n * 2 ^ k := by
      simp only [Nat.pow_eq, Nat.pow_zero] at hwhole
      omega
    calc (m : Rat) * 2 ^ (-(k : Int)) ≤ (n * 2 ^ k : Nat) * 2 ^ (-(k : Int)) :=
          mul_le_mul_of_nonneg_right (Nat.cast_le.mpr hm) (zpow_nonneg (by decide) _)
      _ = n := by
        rw [Nat.cast_mul, Nat.cast_pow, zpow_neg, zpow_natCast]
        exact mul_inv_cancel_right₀ (pow_ne_zero _ (by decide)) _
      _ ≤ (n + n / 2 ^ 53 : Nat) := Nat.cast_le.mpr (Nat.le_add_right _ _)
  · obtain ⟨k, hk⟩ : ∃ k : Nat, n.log2 = k + 53 := ⟨n.log2 - 53, by omega⟩
    have hhalf : 2 ^ k ≤ n / 2 ^ 53 := by
      rw [Nat.le_div_iff_mul_le (by decide), ← Nat.pow_add, ← hk]
      exact Nat.log2_self_le hn
    refine hround.trans ?_
    have hexponent : (2 : Rat) ^ lastPlace n 1 / 2 = (2 ^ k : Nat) := by
      rw [hplace, hk, show ((k + 53 : Nat) : Int) - 52 = ((k + 1 : Nat) : Int) by omega, zpow_natCast, pow_succ]
      push_cast
      exact mul_div_cancel_right₀ _ (by decide)
    rw [hexponent, Nat.cast_one, div_one, Nat.cast_add]
    exact add_le_add_right (Nat.cast_le.mpr hhalf) _

end Binary64
end SplitterLaunch
