import Mathlib.Tactic.NormNum
import SplitterLaunch.Proofs.Json.Shortest
import SplitterLaunch.Proofs.Json.Written

/-! Different floating-point numbers are written differently. The numbers that read as a word lie between the
    middles of the gaps next to it: seventeen digits always reach one of them (`readsBack_shortest`), and none of
    them reads as another word (`eq_of_readsBack`). -/

namespace SplitterLaunch
namespace Binary64

/-! ### Seventeen digits are enough -/

theorem zpow_log10_le {v : Rat} (hv : 0 < v) : (10 : Rat) ^ log10 v ≤ v := by
  unfold log10
  split
  · rename_i hone
    have hfloor : 0 ≤ v.floor := Rat.le_floor_iff.mpr (by exact_mod_cast hv.le)
    obtain ⟨k, hk⟩ := Nat.exists_eq_add_one.mpr (List.length_pos_of_ne_nil (Numeral.decimal_ne_nil v.floor.toNat))
    rw [hk, Nat.cast_add, Nat.cast_one, Int.add_sub_cancel, zpow_natCast]
    rcases Nat.eq_zero_or_pos k with rfl | hpos
    · rwa [pow_zero]
    · have hnot := (Numeral.length_decimal_le_iff (n := v.floor.toNat) hpos).not.mp (by omega)
      have hle : ((10 ^ k : Nat) : Int) ≤ v.floor := by omega
      have := Rat.le_floor_iff.mp hle
      exact_mod_cast this
  · rename_i hsmall
    have hinv : 1 < 1 / v := (lt_div_iff₀ hv).mpr (by simpa using hsmall)
    have hceil : 1 < (1 / v).ceil := Rat.lt_ceil_iff.mpr (by exact_mod_cast hinv)
    have hlength := List.length_pos_of_ne_nil (Numeral.decimal_ne_nil ((1 / v).ceil.toNat - 1))
    have hlt := (Numeral.length_decimal_le_iff hlength).mp le_rfl
    generalize (Numeral.decimal ((1 / v).ceil.toNat - 1)).length = k at hlt ⊢
    have hle : (1 / v).ceil ≤ ((10 ^ k : Nat) : Int) := by omega
    have hbound : 1 / v ≤ 10 ^ k := by
      have := Rat.ceil_le_iff.mp hle
      exact_mod_cast this
    rw [zpow_neg, zpow_natCast]
    rw [one_div] at hbound
    exact inv_le_of_inv_le₀ hv hbound

/-- A quarter of the distance between neighbours of a word. -/
def quarter (x : Binary64) : Rat := 2 ^ (x.exponent - 2)

/-- The lower end in quarters. -/
def lowerQuarters (x : Binary64) : Nat :=
  if x.fraction = 0 ∧ 1 < x.field then 4 * x.significand - 1 else 4 * x.significand - 2

theorem quarter_pos (x : Binary64) : 0 < x.quarter := zpow_pos (by decide) _

theorem lowerEnd_eq (x : Binary64) : x.lowerEnd = x.lowerQuarters * x.quarter := by
  unfold lowerEnd lowerQuarters quarter
  split <;> exact scaled_eq ..

theorem upperEnd_eq (x : Binary64) : x.upperEnd = (4 * x.significand + 2 : Nat) * x.quarter := scaled_eq ..

theorem magnitude_eq (x : Binary64) : x.magnitude = (4 * x.significand : Nat) * x.quarter := by
  unfold magnitude quarter
  rw [scaled_eq, zpow_sub₀ (by decide)]
  push_cast
  ring

theorem fraction_lt (x : Binary64) : x.fraction < 2 ^ 52 := Nat.mod_lt _ (by decide)

theorem significand_lt (x : Binary64) : x.significand < 2 ^ 53 := by
  have := x.fraction_lt
  unfold significand
  rw [Nat.pow_eq]
  split <;> omega

theorem readsBack_of_lt {x : Binary64} {v : Rat} (hlow : x.lowerEnd < v) (hhigh : v < x.upperEnd) :
    x.readsBack v = true := by
  unfold readsBack
  split <;> simp [hlow, hlow.le, hhigh, hhigh.le]

/-- One place of seventeen digits is less than the numbers that read as a word take up. -/
theorem place_lt {x : Binary64} (h : x.isZero = false) :
    (10 : Rat) ^ (log10 x.magnitude - 16) < x.upperEnd - x.lowerEnd := by
  have hpos := significand_pos h
  have hplace : (10 : Rat) ^ (log10 x.magnitude - 16) ≤ x.magnitude / 10 ^ 16 := by
    rw [zpow_sub₀ (by decide)]
    exact div_le_div_of_nonneg_right (zpow_log10_le (magnitude_pos h)) (by norm_num)
  -- In the first of the words with an exponent the gap below is half as wide, but the significand is the least.
  have hquarters : 4 * x.significand < (4 * x.significand + 2 - x.lowerQuarters) * 10 ^ 16 := by
    have hlt := x.significand_lt
    unfold lowerQuarters
    split
    · rename_i hfirst
      have hsignificand : x.significand = 2 ^ 52 := by
        unfold significand
        rw [if_neg (by omega), hfirst.1]
        rfl
      omega
    · omega
  refine hplace.trans_lt ?_
  have hle : x.lowerQuarters ≤ 4 * x.significand + 2 := by
    unfold lowerQuarters
    split <;> omega
  rw [div_lt_iff₀ (by norm_num), magnitude_eq, upperEnd_eq, lowerEnd_eq, ← sub_mul, mul_right_comm, ← Nat.cast_sub hle]
  refine mul_lt_mul_of_pos_right ?_ x.quarter_pos
  exact_mod_cast hquarters

theorem lowerEnd_lt {x : Binary64} (h : x.isZero = false) : x.lowerEnd < x.magnitude := by
  have hpos := significand_pos h
  have hquarters : x.lowerQuarters < 4 * x.significand := by
    unfold lowerQuarters
    split <;> omega
  rw [lowerEnd_eq, magnitude_eq]
  exact mul_lt_mul_of_pos_right (Nat.cast_lt.mpr hquarters) x.quarter_pos

theorem lt_upperEnd (x : Binary64) : x.magnitude < x.upperEnd := by
  rw [upperEnd_eq, magnitude_eq]
  exact mul_lt_mul_of_pos_right (Nat.cast_lt.mpr (by omega)) x.quarter_pos

/-- The multiples of a place below and above a number. -/
theorem floor_place_bounds {v place : Rat} (hv : 0 ≤ v) (hplace : 0 < place) :
    ((v / place).floor.toNat : Rat) * place ≤ v ∧ v < (((v / place).floor.toNat + 1 : Nat) : Rat) * place := by
  have hfloor : 0 ≤ (v / place).floor := Rat.le_floor_iff.mpr (by simpa using div_nonneg hv hplace.le)
  have hcast : (((v / place).floor.toNat : Nat) : Rat) = (v / place).floor := by
    exact_mod_cast congrArg (Int.cast : Int → Rat) (Int.toNat_of_nonneg hfloor)
  constructor
  · rw [hcast, ← le_div_iff₀ hplace]
    exact Rat.floor_le _
  · rw [Nat.cast_add, hcast, Nat.cast_one, ← div_lt_iff₀ hplace]
    exact_mod_cast Rat.lt_floor_add_one _

theorem isSome_nearestDecimal?_seventeen {x : Binary64} (h : x.isZero = false) :
    (x.nearestDecimal? 17).isSome = true := by
  have hexponent : log10 x.magnitude - (17 : Nat) + 1 = log10 x.magnitude - 16 := by omega
  have hplace := place_lt h
  have hpos : (0 : Rat) < 10 ^ (log10 x.magnitude - 16) := zpow_pos (by decide) _
  unfold nearestDecimal?
  simp only [hexponent]
  rw [scaled_eq, Nat.cast_one, one_mul, Nat.cast_ofNat]
  generalize (10 : Rat) ^ (log10 x.magnitude - 16) = place at hplace hpos ⊢
  obtain ⟨hlow, hhigh⟩ := floor_place_bounds (magnitude_nonneg x) hpos
  generalize (x.magnitude / place).floor.toNat = below at hlow hhigh ⊢
  have hnext : ((below + 1 : Nat) : Rat) * place = below * place + place := by
    push_cast
    ring
  -- The two neighbours are less apart than the ends, so one of them is between the ends.
  have hback : x.readsBack (below * place) = true ∨ x.readsBack ((below + 1 : Nat) * place) = true := by
    rcases lt_or_ge x.lowerEnd (below * place) with hlt | hge
    · exact .inl (readsBack_of_lt hlt (hlow.trans_lt x.lt_upperEnd))
    · refine .inr (readsBack_of_lt ((lowerEnd_lt h).trans hhigh) ?_)
      rw [hnext]
      linarith
  split
  · rename_i hfalse hfalse'
    rcases hback with hback | hback
    · rw [hback] at hfalse
      cases hfalse
    · rw [hback] at hfalse'
      cases hfalse'
  · rfl
  · rfl
  · split <;> rfl

/-- What is written for a word reads as this word. -/
theorem readsBack_shortest {x : Binary64} (h : x.isZero = false) :
    x.readsBack (x.shortest.digits * 10 ^ x.shortest.exponent) = true := by
  unfold shortest
  cases hfind : (List.range 17).findSome? fun i => x.nearestDecimal? (i + 1) with
  | none =>
    have hnone := List.findSome?_eq_none_iff.mp hfind 16 (by decide)
    have hsome := isSome_nearestDecimal?_seventeen h
    rw [hnone] at hsome
    cases hsome
  | some d =>
    obtain ⟨i, -, hi⟩ := List.exists_of_findSome?_eq_some hfind
    exact readsBack_nearestDecimal? hi

/-! ### Words that a number reads as -/

theorem le_upperEnd {x : Binary64} {v : Rat} (h : x.readsBack v = true) :
    v ≤ x.upperEnd ∧ (x.significand % 2 ≠ 0 → v < x.upperEnd) := by
  unfold readsBack at h
  split at h <;> simp only [Bool.and_eq_true, decide_eq_true_eq] at h
  · rename_i heven
    exact ⟨h.2, fun hodd => absurd heven hodd⟩
  · exact ⟨h.2.le, fun _ => h.2⟩

theorem lowerEnd_le {x : Binary64} {v : Rat} (h : x.readsBack v = true) :
    x.lowerEnd ≤ v ∧ (x.significand % 2 ≠ 0 → x.lowerEnd < v) := by
  unfold readsBack at h
  split at h <;> simp only [Bool.and_eq_true, decide_eq_true_eq] at h
  · rename_i heven
    exact ⟨h.1, fun hodd => absurd heven hodd⟩
  · exact ⟨h.1.le, fun _ => h.1⟩

/-- Above the least exponent the lower end is at least that of the least significand. -/
theorem le_lowerQuarters {x : Binary64} (h : 1 < x.field) : 2 ^ 54 - 1 ≤ x.lowerQuarters := by
  have hsignificand : x.significand = 2 ^ 52 + x.fraction := by
    unfold significand
    rw [if_neg (by omega), Nat.pow_eq]
  unfold lowerQuarters
  split <;> omega

/-- The middle of a gap lies between two words, the second of them greater. Where it is an end of both, one of them
    is odd. -/
theorem upperEnd_le_lowerEnd {x y : Binary64}
    (h : x.exponent < y.exponent ∨ x.exponent = y.exponent ∧ x.significand < y.significand) :
    x.upperEnd < y.lowerEnd ∨
      x.upperEnd ≤ y.lowerEnd ∧ (x.significand % 2 ≠ 0 ∨ y.significand % 2 ≠ 0) := by
  have hquarters : ∃ k : Nat, y.lowerEnd = k * x.quarter ∧
      (4 * x.significand + 2 < k ∨ 4 * x.significand + 2 ≤ k ∧ (x.significand % 2 ≠ 0 ∨ y.significand % 2 ≠ 0)) := by
    rcases h with hexponent | ⟨hexponent, hsignificand⟩
    · have hfield : 1 < y.field := by
        unfold exponent at hexponent
        omega
      obtain ⟨d, hd⟩ : ∃ d : Nat, y.exponent = x.exponent + (d + 1 : Nat) :=
        ⟨(y.exponent - x.exponent - 1).toNat, by omega⟩
      have hquarter : y.quarter = (2 ^ (d + 1) : Nat) * x.quarter := by
        unfold quarter
        rw [hd, add_sub_right_comm, zpow_add₀ (by decide), zpow_natCast, mul_comm]
        push_cast
        rfl
      refine ⟨y.lowerQuarters * 2 ^ (d + 1), by rw [lowerEnd_eq, hquarter]; push_cast; ring, ?_⟩
      have hlower := le_lowerQuarters hfield
      have hupper := x.significand_lt
      have htwice : y.lowerQuarters * 2 ≤ y.lowerQuarters * 2 ^ (d + 1) :=
        Nat.mul_le_mul_left _ (Nat.le_self_pow (Nat.succ_ne_zero d) 2)
      omega
    · have hquarter : y.quarter = x.quarter := by
        unfold quarter
        rw [hexponent]
      refine ⟨y.lowerQuarters, by rw [lowerEnd_eq, hquarter], ?_⟩
      unfold lowerQuarters
      split <;> omega
  obtain ⟨k, hk, hlt | ⟨hle, hodd⟩⟩ := hquarters
  · left
    rw [upperEnd_eq, hk]
    exact mul_lt_mul_of_pos_right (Nat.cast_lt.mpr hlt) x.quarter_pos
  · refine .inr ⟨?_, hodd⟩
    rw [upperEnd_eq, hk]
    exact mul_le_mul_of_nonneg_right (Nat.cast_le.mpr hle) x.quarter_pos.le

/-- No number reads as two words. -/
theorem not_readsBack_both {x y : Binary64} {v : Rat}
    (h : x.exponent < y.exponent ∨ x.exponent = y.exponent ∧ x.significand < y.significand)
    (hx : x.readsBack v = true) : ¬ y.readsBack v = true := by
  intro hy
  obtain ⟨hupper, hupper'⟩ := le_upperEnd hx
  obtain ⟨hlower, hlower'⟩ := lowerEnd_le hy
  rcases upperEnd_le_lowerEnd h with hlt | ⟨hle, hodd | hodd⟩
  · linarith
  · linarith [hupper' hodd]
  · linarith [hlower' hodd]

theorem eq_of_readsBack {x y : Binary64} {v : Rat} (hx : x.readsBack v = true) (hy : y.readsBack v = true) :
    x.exponent = y.exponent ∧ x.significand = y.significand := by
  by_contra hne
  have hcases : (x.exponent < y.exponent ∨ x.exponent = y.exponent ∧ x.significand < y.significand) ∨
      (y.exponent < x.exponent ∨ y.exponent = x.exponent ∧ y.significand < x.significand) := by omega
  rcases hcases with h | h
  · exact not_readsBack_both h hx hy
  · exact not_readsBack_both h hy hx

theorem ext_of_parts {x y : Binary64} (hsign : x.isNegative = y.isNegative) (hexponent : x.exponent = y.exponent)
    (hsignificand : x.significand = y.significand) : x = y := by
  have hbits : x.bits.toNat % Nat.pow 2 63 = y.bits.toNat % Nat.pow 2 63 := by
    unfold exponent significand field fraction at *
    simp only [Nat.pow_eq, Nat.reducePow] at *
    split at hsignificand <;> split at hsignificand <;> omega
  rw [← ofParts_bits x, ← ofParts_bits y, hsign, hbits]

/-- The word, if it is a finite number. -/
def finite? (x : Binary64) : Option Binary64 := if x.isFinite then some x else none

end Binary64

namespace Json

namespace Numeral

theorem negative_ofBinary64 (x : Binary64) : (ofBinary64 x).negative = x.isNegative := by
  unfold ofBinary64
  split
  · rfl
  · exact negative_ofDecimal _ _

theorem magnitude_ofBinary64_of_isZero {x : Binary64} (h : x.isZero = true) : (ofBinary64 x).magnitude = 0 := by
  unfold ofBinary64
  rw [if_pos h]
  exact zero_mul _

theorem readsBack_magnitude_ofBinary64 {x : Binary64} (h : x.isZero = false) :
    x.readsBack (ofBinary64 x).magnitude = true := by
  unfold ofBinary64
  rw [if_neg (by rw [h]; decide), magnitude_ofDecimal _ (Binary64.exponent_shortest h)]
  exact Binary64.readsBack_shortest h

/-- The numeral of a word tells which word it is. -/
theorem ofBinary64_injective {x y : Binary64} (h : ofBinary64 x = ofBinary64 y) : x = y := by
  have hsign : x.isNegative = y.isNegative := by rw [← negative_ofBinary64, h, negative_ofBinary64]
  have hmagnitude := congrArg magnitude h
  cases hx : x.isZero <;> cases hy : y.isZero
  · have hback := readsBack_magnitude_ofBinary64 hx
    rw [hmagnitude] at hback
    obtain ⟨hexponent, hsignificand⟩ := Binary64.eq_of_readsBack hback (readsBack_magnitude_ofBinary64 hy)
    exact Binary64.ext_of_parts hsign hexponent hsignificand
  · have hback := readsBack_magnitude_ofBinary64 hx
    rw [hmagnitude, magnitude_ofBinary64_of_isZero hy, Binary64.readsBack_zero hx] at hback
    cases hback
  · have hback := readsBack_magnitude_ofBinary64 hy
    rw [← hmagnitude, magnitude_ofBinary64_of_isZero hx, Binary64.readsBack_zero hy] at hback
    cases hback
  · rw [← ofParts_isNegative hx, ← ofParts_isNegative hy, hsign]

end Numeral

/-- What is written for a floating-point number tells which one it is, if it is finite. -/
theorem Number.source_float_eq_iff {x y : Binary64} :
    Number.source (.float x) = Number.source (.float y) ↔ x.finite? = y.finite? := by
  rw [Number.source, Number.source]
  unfold Binary64.finite?
  by_cases hx : x.isFinite = true <;> by_cases hy : y.isFinite = true
  · rw [if_pos hx, if_pos hx, if_pos hy, if_pos hy, Tree.number.injEq, Option.some.injEq]
    exact ⟨Numeral.ofBinary64_injective, congrArg _⟩
  · rw [if_pos hx, if_pos hx, if_neg hy, if_neg hy]
    exact ⟨nofun, nofun⟩
  · rw [if_neg hx, if_neg hx, if_pos hy, if_pos hy]
    exact ⟨nofun, nofun⟩
  · rw [if_neg hx, if_neg hx, if_neg hy, if_neg hy]
    exact ⟨fun _ => rfl, fun _ => rfl⟩

end Json
end SplitterLaunch
