import SplitterLaunch.Proofs.Rounding

/-! Numbers that are written can be read. The shortest decimal of a finite word has at most seventeen digits and
    reads as this word, so it is no more than the end of the word's gap. Reading takes up all the digits, and its
    two roundings do not reach infinity from there (`isSome_number?_ofBinary64`). -/

namespace SplitterLaunch
namespace Binary64

/-! ### The shortest decimal -/

theorem lt_zpow_log10 {v : Rat} (hv : 0 < v) : v < 10 ^ (log10 v + 1) := by
  unfold log10
  split
  · have hfloor : 0 ≤ v.floor := Rat.le_floor_iff.mpr (by exact_mod_cast hv.le)
    have hlength := List.length_pos_of_ne_nil (Numeral.decimal_ne_nil v.floor.toNat)
    have hlt := (Numeral.length_decimal_le_iff hlength).mp le_rfl
    rw [Int.sub_add_cancel, zpow_natCast]
    generalize (Numeral.decimal v.floor.toNat).length = k at hlt ⊢
    have hsucc : v.floor + 1 ≤ (10 ^ k : Nat) := by omega
    calc v < ((v.floor + 1 : Int) : Rat) := Rat.lt_floor_add_one v
      _ ≤ ((10 ^ k : Nat) : Int) := Int.cast_le.mpr hsucc
      _ = 10 ^ k := by push_cast; rfl
  · rename_i hsmall
    have hinv : 1 < 1 / v := (lt_div_iff₀ hv).mpr (by simpa using hsmall)
    have hceil : 1 < (1 / v).ceil := Rat.lt_ceil_iff.mpr (by exact_mod_cast hinv)
    have hbelow : (((1 / v).ceil.toNat - 1 : Nat) : Rat) < 1 / v := by
      have hcast : (((1 / v).ceil.toNat - 1 : Nat) : Rat) = (((1 / v).ceil - 1 : Int) : Rat) := by
        rw [← Int.cast_natCast]
        congr 1
        omega
      rw [hcast, ← Rat.lt_ceil_iff]
      omega
    have hlength := List.length_pos_of_ne_nil (Numeral.decimal_ne_nil ((1 / v).ceil.toNat - 1))
    -- the power of ten with one zero less than digits is no more than the reciprocal
    obtain ⟨k, hk⟩ := Nat.exists_eq_add_one.mpr hlength
    have hpow : (10 : Rat) ^ k < 1 / v := by
      rcases Nat.eq_zero_or_pos k with rfl | hpos
      · simpa using hinv
      · have hnot := (Numeral.length_decimal_le_iff (n := (1 / v).ceil.toNat - 1) hpos).not.mp (by omega)
        refine lt_of_le_of_lt ?_ hbelow
        exact_mod_cast not_lt.mp hnot
    have hexponent : -((k + 1 : Nat) : Int) + 1 = -(k : Int) := by omega
    rw [hk, hexponent, zpow_neg, zpow_natCast]
    exact (lt_inv_comm₀ (pow_pos (by decide) k) hv).mp (by rwa [one_div] at hpow)

theorem magnitude_pos {x : Binary64} (h : x.isZero = false) : 0 < x.magnitude := by
  unfold magnitude
  rw [scaled_eq]
  exact mul_pos (Nat.cast_pos.mpr (significand_pos h)) (zpow_pos (by decide) _)

theorem readsBack_nearestDecimal? {x : Binary64} {count : Nat} {d : Decimal} (h : x.nearestDecimal? count = some d) :
    x.readsBack (d.digits * 10 ^ d.exponent) = true := by
  unfold nearestDecimal? at h
  simp only [scaled_eq] at h
  split at h
  · cases h
  · rename_i hlow hhigh
    cases h
    simpa using hlow
  · rename_i hlow hhigh
    cases h
    simpa using hhigh
  · rename_i hlow hhigh
    split at h
    · cases h
      simpa using hlow
    · cases h
      simpa using hhigh

theorem digits_nearestDecimal?_le {x : Binary64} (hx : x.isZero = false) {count : Nat} {d : Decimal}
    (h : x.nearestDecimal? count = some d) : d.digits ≤ 10 ^ count := by
  have hunit : (0 : Rat) < 10 ^ (log10 x.magnitude - count + 1) := zpow_pos (by decide) _
  have hbelow : (x.magnitude / scaled 1 10 (log10 x.magnitude - count + 1)).floor.toNat < 10 ^ count := by
    have hquotient : x.magnitude / scaled 1 10 (log10 x.magnitude - count + 1) < ((10 ^ count : Nat) : Int) := by
      rw [scaled_eq, Nat.cast_one, one_mul]
      refine (div_lt_iff₀ hunit).mpr ?_
      calc x.magnitude < 10 ^ (log10 x.magnitude + 1) := lt_zpow_log10 (magnitude_pos hx)
        _ = 10 ^ (count : Int) * 10 ^ (log10 x.magnitude - count + 1) := by
          rw [← zpow_add₀ (by decide)]
          congr 1
          omega
        _ = _ := by
          rw [zpow_natCast]
          push_cast
          rfl
    have hfloor := Rat.floor_lt_iff.mpr hquotient
    have hpos : 0 < 10 ^ count := Nat.pow_pos (by decide)
    omega
  unfold nearestDecimal? at h
  simp only at h
  generalize (x.magnitude / scaled 1 10 (log10 x.magnitude - count + 1)).floor.toNat = below at h hbelow
  split at h
  · cases h
  · cases h
    exact hbelow.le
  · cases h
    exact hbelow
  · split at h
    · cases h
      exact hbelow.le
    · cases h
      exact hbelow

theorem shortest_cases {x : Binary64} (hx : x.isZero = false) :
    x.shortest.digits = 0 ∨
      x.shortest.digits ≤ 10 ^ 17 ∧ x.readsBack (x.shortest.digits * 10 ^ x.shortest.exponent) = true := by
  unfold shortest
  cases hfind : (List.range 17).findSome? fun i => x.nearestDecimal? (i + 1) with
  | none => exact .inl rfl
  | some d =>
    obtain ⟨i, hmem, hi⟩ := List.exists_of_findSome?_eq_some hfind
    have hcount : i + 1 ≤ 17 := List.mem_range.mp hmem
    exact .inr ⟨(digits_nearestDecimal?_le hx hi).trans (Nat.pow_le_pow_right (by decide) hcount),
      readsBack_nearestDecimal? hi⟩

theorem digits_shortest_le {x : Binary64} (hx : x.isZero = false) : x.shortest.digits ≤ 10 ^ 17 := by
  rcases shortest_cases hx with h | h
  · exact h ▸ Nat.zero_le _
  · exact h.1

/-! ### The ends of gaps -/

/-- The middle of the gap after the greatest finite word but one, in quarters of a last place. -/
def farQuarters : Nat := 4 * (2 ^ 53 - 2) + 2

/-- The middle of the gap after the greatest finite word but one. -/
def farEnd : Nat := farQuarters * Nat.pow 2 969

/-- The bits of the greatest finite word. -/
def greatestBits : Nat := infinityBits - 1

theorem cast_mul_two_pow (n k : Nat) : ((n * Nat.pow 2 k : Nat) : Rat) = n * 2 ^ (k : Int) := by
  rw [zpow_natCast, Nat.pow_eq]
  push_cast
  rfl

theorem ofParts_bits (x : Binary64) : ofParts x.isNegative (x.bits.toNat % Nat.pow 2 63) = x := by
  obtain ⟨bits⟩ := x
  have hlt := bits.toNat_lt
  refine congrArg mk (UInt64.toNat_inj.mp ((toNat_ofParts _ (Nat.mod_lt _ (by decide))).trans ?_))
  unfold isNegative
  simp only [Nat.pow_eq, decide_eq_true_eq]
  split <;> omega

theorem field_le {x : Binary64} (h : x.isFinite = true) : x.field ≤ 2046 := by
  have hne : x.field ≠ 2047 := by simpa [isFinite] using h
  have hlt : x.field < Nat.pow 2 11 := Nat.mod_lt _ (by decide)
  rw [Nat.pow_eq] at hlt
  omega

theorem eq_ofParts_greatestBits {x : Binary64} (hfield : x.field = 2046) (hfraction : x.fraction = 2 ^ 52 - 1) :
    x = ofParts x.isNegative greatestBits := by
  have hbits : x.bits.toNat % Nat.pow 2 63 = greatestBits := by
    unfold field at hfield
    unfold fraction at hfraction
    unfold greatestBits infinityBits
    simp only [Nat.pow_eq] at hfield hfraction ⊢
    omega
  rw [← hbits, ofParts_bits]

/-- A finite word that is not the greatest is far from infinity. -/
theorem upperEnd_le {x : Binary64} (hx : x.isFinite = true) (hne : x ≠ ofParts x.isNegative greatestBits) :
    x.upperEnd ≤ farEnd := by
  have hfraction : x.fraction < 2 ^ 52 := Nat.mod_lt _ (by decide)
  have hfar : (farEnd : Rat) = farQuarters * 2 ^ (969 : Int) := by
    unfold farEnd
    generalize hk : 969 = k
    rw [cast_mul_two_pow, ← hk]
    rfl
  have hsignificand : x.significand ≤ 2 ^ 52 + x.fraction := by
    unfold significand
    rw [Nat.pow_eq]
    split <;> omega
  unfold upperEnd
  rw [scaled_eq, hfar]
  rcases Nat.lt_or_eq_of_le (field_le hx) with hlow | hhigh
  · have hexponent : x.exponent - 2 ≤ 968 := by
      unfold exponent
      omega
    have hquarters : 4 * x.significand + 2 ≤ 2 * farQuarters := by
      unfold farQuarters
      omega
    calc ((4 * x.significand + 2 : Nat) : Rat) * 2 ^ (x.exponent - 2)
        ≤ (2 * farQuarters : Nat) * 2 ^ (968 : Int) :=
          mul_le_mul (Nat.cast_le.mpr hquarters) (zpow_le_zpow_right₀ (by decide) hexponent) (zpow_nonneg (by decide) _)
            (Nat.cast_nonneg _)
      _ = farQuarters * 2 ^ (968 + 1 : Int) := by
        rw [zpow_add_one₀ (by decide), Nat.cast_mul, mul_comm ((2 : Nat) : Rat), mul_assoc, mul_comm ((2 : Nat) : Rat)]
        rfl
  · have hexponent : x.exponent - 2 = 969 := by
      unfold exponent
      omega
    have hother : x.fraction ≠ 2 ^ 52 - 1 := fun hall => hne (eq_ofParts_greatestBits hhigh hall)
    have hquarters : 4 * x.significand + 2 ≤ farQuarters := by
      unfold farQuarters
      omega
    rw [hexponent]
    exact mul_le_mul_of_nonneg_right (Nat.cast_le.mpr hquarters) (zpow_nonneg (by decide) _)

/-- What is written for a word is no more than the end of its gap. -/
theorem shortest_le {x : Binary64} (hzero : x.isZero = false) (hx : x.isFinite = true)
    (hne : x ≠ ofParts x.isNegative greatestBits) : (x.shortest.digits : Rat) * 10 ^ x.shortest.exponent ≤ farEnd := by
  rcases shortest_cases hzero with h | ⟨-, hback⟩
  · rw [h, Nat.cast_zero, zero_mul]
    exact Nat.cast_nonneg _
  · refine le_trans ?_ (upperEnd_le hx hne)
    unfold readsBack at hback
    split at hback
    · simp only [Bool.and_eq_true, decide_eq_true_eq] at hback
      exact hback.2
    · simp only [Bool.and_eq_true, decide_eq_true_eq] at hback
      exact hback.2.le

end Binary64

namespace Json
namespace Numeral
open SplitterLaunch.Numeral
open Binary64 (farEnd greatestBits isFinite_ofNat isFinite_mul isInfinite_of_isFinite magnitude_ofNat_le
  magnitude_nonneg)

/-! ### Digits that are taken up -/

theorem takeUp_of_lt {acc : Nat} {cs : List Char} (h : acc * 10 ^ cs.length + value cs < UInt64.size) :
    takeUp acc cs = (acc * 10 ^ cs.length + value cs, cs.length) := by
  induction cs generalizing acc with
  | nil =>
    simp only [List.length_nil, Nat.pow_zero, Nat.mul_one]
    rfl
  | cons c cs ih =>
    have hnext : acc * 10 ^ (c :: cs).length + value (c :: cs) = (acc * 10 + digitValue c) * 10 ^ cs.length + value cs := by
      rw [value_cons, List.length_cons, Nat.pow_succ]
      ring
    rw [hnext] at h ⊢
    have hfits : acc * 10 + digitValue c < UInt64.size := by
      have hle := Nat.le_mul_of_pos_right (acc * 10 + digitValue c) (Nat.pow_pos (n := cs.length) (show 0 < 10 by decide))
      omega
    rw [takeUp]
    simp only [hfits, if_true, ih h, List.length_cons]

/-- A numeral whose digits all fit a word is read, if the power of ten can be applied to them. -/
theorem isSome_float? {n : Numeral} (hsize : value (n.whole ++ n.decimals) < UInt64.size)
    (hexponent : ∀ ds, n.exponent = some (false, ds) → value ds < 2147483648)
    (hscale : (scale? (.ofNat (value (n.whole ++ n.decimals))) (n.scale - n.decimals.length)).isSome = true) :
    n.float?.isSome = true := by
  rw [value_append] at hsize hscale
  have hwhole : value n.whole < UInt64.size := by
    have hle := Nat.le_mul_of_pos_right (value n.whole) (Nat.pow_pos (n := n.decimals.length) (show 0 < 10 by decide))
    omega
  have hhead : takeUp 0 n.whole = (value n.whole, n.whole.length) := by
    rw [takeUp_of_lt (by rwa [Nat.zero_mul, Nat.zero_add]), Nat.zero_mul, Nat.zero_add]
  unfold float?
  simp only [hhead, takeUp_of_lt hsize, Nat.sub_self, Option.isSome_map, Int.natCast_zero, Int.zero_sub]
  unfold scale at hscale
  cases hexp : n.exponent with
  | none =>
    rw [hexp, Int.zero_sub] at hscale
    exact hscale
  | some e =>
    obtain ⟨negative, ds⟩ := e
    rw [hexp] at hscale
    dsimp only at hscale ⊢
    cases negative with
    | true =>
      split
      · rw [if_pos rfl] at hscale ⊢
        rwa [Int.sub_eq_add_neg, Int.add_comm]
      · rfl
    | false =>
      rw [if_pos (hexponent ds hexp)]
      simp only [Bool.false_eq_true, if_false] at hscale ⊢
      rwa [Int.add_comm]

theorem isSome_number? {n : Numeral} (h : n.float?.isSome = true) : n.number?.isSome = true := by
  unfold number?
  cases n.integer? with
  | some i => rfl
  | none => rwa [Option.isSome_map]

/-! ### Powers of ten -/

/-- The most that at most seventeen digits make before so many zeros, without going beyond what is written. -/
def mostDigits (e : Nat) : Nat := min (farEnd / 10 ^ e) (10 ^ 17)

theorem isFinite_powerOfTen : ∀ e ≤ 308, (powerOfTen e).isFinite = true := by decide +kernel

/-- Neither the rounding of the digits nor that of the power of ten leads to infinity. -/
theorem mostDigits_mul_lt : ∀ e ≤ 308,
    ((mostDigits e + mostDigits e / 2 ^ 53 : Nat) : Rat) * (powerOfTen e).magnitude < Binary64.overflow := by
  decide +kernel

theorem le_of_mul_zpow_le {n : Nat} {e : Int} (hn : 0 < n) (h : (n : Rat) * 10 ^ e ≤ farEnd) : e ≤ 308 := by
  by_contra hlarge
  have hfar : (farEnd : Rat) < 10 ^ (309 : Int) := by
    rw [show (309 : Int) = (309 : Nat) from rfl, zpow_natCast]
    exact_mod_cast (by decide +kernel : farEnd < 10 ^ 309)
  have hone : (1 : Rat) ≤ n := by exact_mod_cast hn
  refine absurd h (not_le.mpr (hfar.trans_le ?_))
  calc (10 : Rat) ^ (309 : Int) ≤ 10 ^ e := zpow_le_zpow_right₀ (by decide) (by omega)
    _ ≤ n * 10 ^ e := le_mul_of_one_le_left (zpow_nonneg (by decide) _) hone

theorem isSome_scale? {n : Nat} {e : Int} (hn : n ≤ 10 ^ 17) (h : (n : Rat) * 10 ^ e ≤ farEnd) :
    (scale? (.ofNat n) e).isSome = true := by
  unfold scale?
  by_cases hzero : (Binary64.ofNat n).isZero = true
  · rw [if_pos hzero]
    rfl
  have hpos : 0 < n := by
    rcases Nat.eq_zero_or_pos n with rfl | hpos
    · exact absurd (by decide) hzero
    · exact hpos
  rw [if_neg hzero]
  split
  -- No digits that are written have an exponent beyond the table of powers.
  · rename_i hlarge
    have hle := le_of_mul_zpow_le hpos h
    omega
  · split
    · rename_i hle hnonneg
      obtain ⟨k, rfl⟩ := Int.eq_ofNat_of_zero_le hnonneg
      have hk : k ≤ 308 := by omega
      have hsmall : n < 2 ^ 64 := by omega
      have hmost : n ≤ mostDigits k := by
        refine Nat.le_min.mpr ⟨(Nat.le_div_iff_mul_le (Nat.pow_pos (by decide))).mpr ?_, hn⟩
        rw [zpow_natCast] at h
        exact_mod_cast h
      have hproduct : (Binary64.ofNat n).magnitude * (powerOfTen k).magnitude < Binary64.overflow := by
        refine lt_of_le_of_lt (mul_le_mul_of_nonneg_right ?_ (magnitude_nonneg _)) (mostDigits_mul_lt k hk)
        refine (magnitude_ofNat_le hsmall).trans (Nat.cast_le.mpr ?_)
        exact Nat.add_le_add hmost (Nat.div_le_div_right hmost)
      have hfinite : ((Binary64.ofNat n).mul (powerOfTen k)).isInfinite = false :=
        isInfinite_of_isFinite (isFinite_mul (isFinite_ofNat hsmall) (isFinite_powerOfTen k hk) hproduct)
      simp only [Int.toNat_natCast, hfinite, Bool.false_eq_true, if_false]
      rfl
    · split
      · rfl
      · split <;> rfl

/-! ### Rows of digits -/

section Layouts
variable {negative : Bool} {digits : List Char}

theorem row_scientific (h : digits ≠ []) (top : Int) :
    (scientific negative digits top).whole ++ (scientific negative digits top).decimals = digits := by
  obtain ⟨c, cs, rfl⟩ := List.exists_cons_of_ne_nil h
  cases cs with
  | nil => rfl
  | cons c' cs => rfl

theorem value_row_afterPoint (zeros : Nat) :
    value ((afterPoint negative digits zeros).whole ++ (afterPoint negative digits zeros).decimals) = value digits := by
  show value (List.replicate (zeros + 1) '0' ++ digits) = value digits
  rw [value_append, value_replicate, Nat.zero_mul, Nat.zero_add]

theorem value_row_aroundPoint_le {bound width : Nat} (hdigits : ∀ c ∈ digits, c.isDigit = true)
    (hbound : value digits ≤ bound) (hwidth : 10 ^ (width + 1) ≤ bound) :
    value ((aroundPoint negative digits width).whole ++ (aroundPoint negative digits width).decimals) ≤ bound := by
  by_cases hle : digits.length ≤ width
  -- Either zeros fill the place before the point, or the point stands among the digits.
  · have hrow : (aroundPoint negative digits width).whole ++ (aroundPoint negative digits width).decimals =
        digits ++ List.replicate (width - digits.length + 1) '0' := by
      simp [decimals, aroundPoint, List.drop_eq_nil_of_le hle, List.take_of_length_le hle, List.replicate_succ']
    have hlength : (digits ++ List.replicate (width - digits.length + 1) '0').length = width + 1 := by
      simp only [List.length_append, List.length_replicate]
      omega
    rw [hrow]
    refine Nat.le_trans (Nat.le_of_lt ?_) hwidth
    rw [← hlength]
    exact value_lt_pow fun c hc => (List.mem_append.mp hc).elim (hdigits c) isDigit_of_mem_replicate
  · have hrow : (aroundPoint negative digits width).whole ++ (aroundPoint negative digits width).decimals = digits := by
      simp [decimals, aroundPoint, hle, Nat.sub_eq_zero_of_le (Nat.le_of_not_le hle)]
    rwa [hrow]

end Layouts

theorem value_significant_le (n : Nat) : value (significant n) ≤ n := by
  conv => rhs; rw [← value_significant n]
  exact Nat.le_mul_of_pos_right _ (Nat.pow_pos (by decide))

theorem value_row_ofDecimal_le (negative : Bool) {d : Binary64.Decimal} (hdigits : d.digits ≤ 10 ^ 17)
    (hzero : d.digits = 0 → d.exponent = 0) :
    value ((ofDecimal negative d).whole ++ (ofDecimal negative d).decimals) ≤ 10 ^ 17 := by
  have hvalue := (value_significant_le d.digits).trans hdigits
  unfold ofDecimal
  simp only
  split
  · rename_i htop
    have hne : significant d.digits ≠ [] := by
      apply significant_ne_nil
      intro h
      rw [h, hzero h] at htop
      exact absurd htop (by decide)
    rwa [row_scientific hne]
  · split
    · rwa [value_row_afterPoint]
    · refine value_row_aroundPoint_le (fun _ hc => isDigit_of_mem_significant hc) hvalue ?_
      exact Nat.pow_le_pow_right (by decide) (by omega)

/-- An exponent that is written out without a minus sign is small. -/
theorem value_exponent_ofDecimal_lt (negative : Bool) {d : Binary64.Decimal} (hdigits : d.digits ≤ 10 ^ 17)
    (hzero : d.digits = 0 → d.exponent = 0) (hfar : (d.digits : Rat) * 10 ^ d.exponent ≤ farEnd) :
    ∀ ds, (ofDecimal negative d).exponent = some (false, ds) → value ds < 2147483648 := by
  have hexponent : d.exponent ≤ 308 := by
    rcases Nat.eq_zero_or_pos d.digits with h | hpos
    · rw [hzero h]
      decide
    · exact le_of_mul_zpow_le hpos hfar
  have hlength : (decimal d.digits).length ≤ 18 := (length_decimal_le_iff (by decide)).mpr (by omega)
  intro ds hds
  unfold ofDecimal at hds
  simp only at hds
  split at hds
  · simp only [scientific, Option.some.injEq, Prod.mk.injEq, decide_eq_false_iff_not] at hds
    obtain ⟨hsign, rfl⟩ := hds
    rw [value_decimal]
    omega
  · split at hds <;> cases hds

/-- Whatever finite number is written, it can be read. -/
theorem isSome_number?_ofBinary64 {x : Binary64} (hx : x.isFinite = true) : (ofBinary64 x).number?.isSome = true := by
  by_cases hzero : x.isZero = true
  · rw [number?_ofBinary64 hzero]
    rfl
  by_cases hgreatest : x = .ofParts x.isNegative greatestBits
  · -- its own gap ends in infinity, but the word itself is read
    have hread : ∀ negative : Bool, (ofBinary64 (.ofParts negative greatestBits)).number?.isSome = true := by
      decide +kernel
    rw [hgreatest]
    exact hread _
  · have hpositive : x.isZero = false := Bool.eq_false_iff.mpr hzero
    have hdigits := Binary64.digits_shortest_le hpositive
    have hshort := Binary64.exponent_shortest hpositive
    have hfar := Binary64.shortest_le hpositive hx hgreatest
    have hrow := value_row_ofDecimal_le x.isNegative hdigits hshort
    rw [ofBinary64, if_neg hzero]
    refine isSome_number? (isSome_float? (by rw [UInt64.size]; omega)
      (value_exponent_ofDecimal_lt x.isNegative hdigits hshort hfar) (isSome_scale? hrow ?_))
    rw [← magnitude_ofDecimal x.isNegative hshort] at hfar
    exact hfar

end Numeral
end Json
end SplitterLaunch
