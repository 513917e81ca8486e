import Mathlib.Algebra.Order.Field.Rat
import Mathlib.Data.List.DropRight
import Mathlib.Tactic.Ring
import SplitterLaunch.Proofs.Json.Numerals

/-! Numbers as they are written. Every number that is written is the spelling of a numeral. The numeral of an
    integer spells this integer, that of a floating-point number its shortest decimal, and reading gives the
    integer back. -/

namespace SplitterLaunch
namespace Binary64

theorem scaled_eq (n b : Nat) (e : Int) : scaled n b e = n * (b : Rat) ^ e := by
  have hpow (k : Nat) : ((Nat.pow b k : Nat) : Rat) = (b : Rat) ^ k := Nat.cast_pow b k
  unfold scaled
  split
  · rename_i h
    obtain ⟨k, rfl⟩ := Int.eq_ofNat_of_zero_le h
    rw [Int.toNat_natCast, zpow_natCast, Nat.cast_mul, hpow]
  · rename_i h
    obtain ⟨k, rfl⟩ : ∃ k : Nat, e = -(k : Int) := ⟨(-e).toNat, by omega⟩
    rw [neg_neg, Int.toNat_natCast, zpow_neg, zpow_natCast, Rat.mkRat_eq_div, div_eq_mul_inv, hpow]
    rfl

/-- The number that the text of a finite word denotes. -/
def shown (x : Binary64) : Rat :=
  let magnitude := if x.isZero then 0 else scaled x.shortest.digits 10 x.shortest.exponent
  if x.isNegative then -magnitude else magnitude

/-! ### The shortest decimal -/

theorem significand_pos {x : Binary64} (h : x.isZero = false) : 0 < x.significand := by
  unfold significand
  split
  · rename_i hfield
    apply Nat.pos_of_ne_zero
    intro hfraction
    simp [isZero, hfield, hfraction] at h
  · exact Nat.add_pos_left (by decide) _

theorem lowerEnd_pos {x : Binary64} (h : x.isZero = false) : 0 < x.lowerEnd := by
  have hpos := significand_pos h
  have hscaled (n : Nat) (hn : 0 < n) (e : Int) : 0 < scaled n 2 e := by
    rw [scaled_eq]
    exact mul_pos (Nat.cast_pos.mpr hn) (zpow_pos (by decide) _)
  unfold lowerEnd
  split <;> exact hscaled _ (by omega) _

theorem readsBack_zero {x : Binary64} (h : x.isZero = false) : x.readsBack 0 = false := by
  have hlower := lowerEnd_pos h
  unfold readsBack
  split <;> simp [hlower.le, not_le.mpr hlower]

theorem digits_nearestDecimal? {x : Binary64} (h : x.isZero = false) {count : Nat} {d : Decimal}
    (hd : x.nearestDecimal? count = some d) : d.digits ≠ 0 := by
  intro hzero
  have hback := readsBack_zero h
  have hnone {below : Nat} {unit : Rat} (hlow : x.readsBack (below * unit) = true) (hbelow : below = 0) : False := by
    rw [hbelow, Nat.cast_zero, zero_mul, hback] at hlow
    cases hlow
  unfold nearestDecimal? at hd
  simp only at hd
  split at hd
  · cases hd
  · rename_i hlow _
    cases hd
    exact hnone hlow hzero
  · cases hd
    exact absurd hzero (Nat.succ_ne_zero _)
  · rename_i hlow _
    split at hd
    · cases hd
      exact hnone hlow hzero
    · cases hd
      exact absurd hzero (Nat.succ_ne_zero _)

/-- Only the decimal without digits has none. -/
theorem exponent_shortest {x : Binary64} (h : x.isZero = false) (hd : x.shortest.digits = 0) :
    x.shortest.exponent = 0 := by
  unfold shortest at hd ⊢
  cases hfind : (List.range 17).findSome? fun i => x.nearestDecimal? (i + 1) with
  | none => rfl
  | some d =>
    rw [hfind] at hd
    obtain ⟨i, -, hi⟩ := List.exists_of_findSome?_eq_some hfind
    exact absurd hd (digits_nearestDecimal? h hi)

end Binary64

namespace Numeral

/-! ### Digits without the zeros at the end -/

/-- The digits of a number up to the last one that is not zero. -/
def significant (n : Nat) : List Char := (decimal n).rdropWhile (· == '0')

/-- How many zeros the numeral of a number ends in. -/
def zeros (n : Nat) : Nat := ((decimal n).rtakeWhile (· == '0')).length

theorem significant_append_zeros (n : Nat) : significant n ++ List.replicate (zeros n) '0' = decimal n := by
  have hzeros : (decimal n).rtakeWhile (· == '0') = List.replicate (zeros n) '0' := by
    rw [List.eq_replicate_iff]
    exact ⟨rfl, fun c hc => beq_iff_eq.mp (List.mem_rtakeWhile_imp (p := (· == '0')) hc)⟩
  rw [← hzeros]
  exact List.rdropWhile_append_rtakeWhile

theorem value_significant (n : Nat) : value (significant n) * 10 ^ zeros n = n := by
  conv => rhs; rw [← value_decimal n, ← significant_append_zeros n]
  rw [value_append, value_replicate, List.length_replicate, Nat.add_zero]

theorem length_significant (n : Nat) : (significant n).length + zeros n = (decimal n).length := by
  conv => rhs; rw [← significant_append_zeros n]
  rw [List.length_append, List.length_replicate]

theorem isDigit_of_mem_significant {n : Nat} {c : Char} (h : c ∈ significant n) : c.isDigit = true :=
  isDigit_of_mem_decimal ((List.rdropWhile_prefix (· == '0') (decimal n)).subset h)

theorem significant_ne_nil {n : Nat} (h : n ≠ 0) : significant n ≠ [] := by
  intro hnil
  have hvalue := value_significant n
  rw [hnil] at hvalue
  exact h (hvalue.symm.trans (Nat.zero_mul _))

theorem head?_significant {n : Nat} (h : (significant n).head? = some '0') : n = 0 := by
  apply head?_decimal
  rw [← significant_append_zeros n]
  cases hs : significant n with
  | nil =>
    rw [hs] at h
    cases h
  | cons c cs =>
    rw [hs] at h
    exact h

end Numeral

namespace Json
namespace Numeral
open SplitterLaunch.Numeral

/-! ### The numerals that are written -/

/-- The numeral of an integer. -/
def ofInteger (n : Int) : Numeral := ⟨decide (n < 0), decimal n.natAbs, none, none⟩

section Layouts
variable (negative : Bool) (digits : List Char)

/-- The first digit before the point, and the exponent written out. -/
def scientific (top : Int) : Numeral :=
  ⟨negative, digits.take 1, if digits.length ≤ 1 then none else some (digits.drop 1),
    some (decide (top < 0), decimal top.natAbs)⟩

/-- All digits after the point, behind some zeros. -/
def afterPoint (zeros : Nat) : Numeral := ⟨negative, ['0'], some (List.replicate zeros '0' ++ digits), none⟩

/-- So many digits before the point, with zeros if there are fewer. -/
def aroundPoint (width : Nat) : Numeral :=
  ⟨negative, digits.take width ++ List.replicate (width - digits.length) '0',
    some (if (digits.drop width).isEmpty then ['0'] else digits.drop width), none⟩

end Layouts

/-- The numeral of a decimal. -/
def ofDecimal (negative : Bool) (d : Binary64.Decimal) : Numeral :=
  let top : Int := d.exponent + (decimal d.digits).length - 1
  if top < -5 ∨ 15 < top then scientific negative (significant d.digits) top
  else if top < 0 then afterPoint negative (significant d.digits) (-top - 1).toNat
  else aroundPoint negative (significant d.digits) (top.toNat + 1)

/-- The numeral of a finite floating-point number. -/
def ofBinary64 (x : Binary64) : Numeral :=
  if x.isZero then ⟨x.isNegative, ['0'], some ['0'], none⟩ else ofDecimal x.isNegative x.shortest

theorem spell_ofInteger (n : Int) : (ofInteger n).spell = writeInteger n := by
  unfold writeInteger ofInteger spell
  by_cases h : n < 0 <;> simp [h, spellFraction, spellExponent]

theorem spell_ofDecimal (negative : Bool) (d : Binary64.Decimal) :
    (ofDecimal negative d).spell = (if negative then ['-'] else []) ++ writeDecimal d := by
  have hdigits : ((decimal d.digits).reverse.dropWhile (· == '0')).reverse = significant d.digits := rfl
  unfold ofDecimal writeDecimal
  simp only [hdigits]
  split
  · rename_i htop
    rcases significant d.digits with - | ⟨c, - | ⟨c', cs⟩⟩ <;>
      by_cases hneg : d.exponent + ((decimal d.digits).length : Int) - 1 < 0 <;>
      simp [scientific, spell, spellFraction, spellExponent, hneg]
  · split
    · simp [afterPoint, spell, spellFraction, spellExponent]
    · simp [aroundPoint, spell, spellFraction, spellExponent]

theorem spell_ofBinary64 {x : Binary64} (h : x.isFinite = true) : (ofBinary64 x).spell = writeBinary64 x := by
  unfold ofBinary64 writeBinary64
  by_cases hz : x.isZero = true
  · cases hn : x.isNegative <;> simp [h, hz, spell, spellFraction, spellExponent]
  · cases hn : x.isNegative <;> simp [h, hz, spell_ofDecimal]

/-! ### Their form -/

theorem isRow_decimal (n : Nat) : IsRow (decimal n) := ⟨decimal_ne_nil n, fun _ h => isDigit_of_mem_decimal h⟩

theorem isRow_append {ds es : List Char} (h : ds ++ es ≠ []) (hds : ∀ c ∈ ds, c.isDigit = true)
    (hes : ∀ c ∈ es, c.isDigit = true) : IsRow (ds ++ es) :=
  ⟨h, fun c hc => (List.mem_append.mp hc).elim (hds c) (hes c)⟩

theorem isDigit_of_mem_replicate {n : Nat} {c : Char} (h : c ∈ List.replicate n '0') : c.isDigit = true := by
  rw [List.eq_of_mem_replicate h]
  rfl

theorem wellFormed_ofInteger (n : Int) : (ofInteger n).WellFormed where
  whole := isRow_decimal _
  leading h := by
    show (decimal n.natAbs).length = 1
    rw [head?_decimal h]
    rfl
  fraction _ h := by cases h
  exponent _ h := by cases h

section Layouts
variable {negative : Bool} {digits : List Char}

theorem wellFormed_scientific (h : IsRow digits) (top : Int) : (scientific negative digits top).WellFormed := by
  obtain ⟨c, cs, rfl⟩ := List.exists_cons_of_ne_nil h.1
  refine ⟨⟨by simp [scientific], fun x hx => h.2 x (List.mem_of_mem_take hx)⟩, fun _ => by simp [scientific], ?_, ?_⟩
  · intro ds hds
    cases cs with
    | nil => cases hds
    | cons c' cs =>
      cases hds
      exact ⟨by simp, fun x hx => h.2 x (List.mem_of_mem_drop hx)⟩
  · rintro e ⟨⟩
    exact isRow_decimal _

theorem wellFormed_afterPoint (h : IsRow digits) (zeros : Nat) : (afterPoint negative digits zeros).WellFormed := by
  refine ⟨⟨by simp [afterPoint], ?_⟩, fun _ => rfl, ?_, fun _ he => by cases he⟩
  · intro c hc
    rw [List.mem_singleton.mp hc]
    rfl
  · rintro ds ⟨⟩
    exact isRow_append (List.append_ne_nil_of_right_ne_nil _ h.1) (fun _ hc => isDigit_of_mem_replicate hc) h.2

theorem wellFormed_aroundPoint (hdigits : ∀ c ∈ digits, c.isDigit = true) {width : Nat}
    (hlead : digits.head? ≠ some '0') (hwidth : 0 < width) (hnil : digits = [] → width = 1) :
    (aroundPoint negative digits width).WellFormed := by
  refine ⟨isRow_append ?_ (fun c hc => hdigits c (List.mem_of_mem_take hc)) fun _ hc => isDigit_of_mem_replicate hc,
    ?_, ?_, fun _ he => by cases he⟩
  · cases digits with
    | nil => simp [hnil rfl]
    | cons c cs => simp [Nat.pos_iff_ne_zero.mp hwidth]
  · intro hzero
    cases digits with
    | nil => simp [aroundPoint, hnil rfl]
    | cons c cs =>
      obtain ⟨w, rfl⟩ := Nat.exists_eq_succ_of_ne_zero (Nat.pos_iff_ne_zero.mp hwidth)
      exact absurd hzero hlead
  · rintro ds ⟨⟩
    split
    · exact ⟨by simp, fun c hc => by rw [List.mem_singleton.mp hc]; rfl⟩
    · rename_i hne
      exact ⟨by simpa using hne, fun c hc => hdigits c (List.mem_of_mem_drop hc)⟩

end Layouts

theorem isRow_significant {n : Nat} (h : n ≠ 0) : IsRow (significant n) :=
  ⟨significant_ne_nil h, fun _ hc => isDigit_of_mem_significant hc⟩

theorem wellFormed_ofDecimal (negative : Bool) {d : Binary64.Decimal} (h : d.digits = 0 → d.exponent = 0) :
    (ofDecimal negative d).WellFormed := by
  unfold ofDecimal
  by_cases hzero : d.digits = 0
  · rw [hzero, h hzero]
    exact wellFormed_aroundPoint (fun _ hc => isDigit_of_mem_significant hc) (by decide) Nat.one_pos fun _ => rfl
  · have hrow := isRow_significant hzero
    simp only
    split
    · exact wellFormed_scientific hrow _
    · split
      · exact wellFormed_afterPoint hrow _
      · exact wellFormed_aroundPoint hrow.2 (fun hlead => hzero (head?_significant hlead)) (Nat.succ_pos _) fun hnil =>
          absurd hnil hrow.1

/-! ### What they spell -/

/-- The power of ten that a numeral names. -/
def scale (n : Numeral) : Int :=
  match n.exponent with
  | none => 0
  | some (negative, ds) => if negative then -(value ds : Int) else value ds

/-- The number that is written, without its sign. -/
def magnitude (n : Numeral) : Rat := value (n.whole ++ n.decimals) * (10 : Rat) ^ (n.scale - n.decimals.length)

theorem exactly_eq (n : Numeral) : n.exactly = if n.negative then -n.magnitude else n.magnitude := by
  have hscaled := Binary64.scaled_eq (value (n.whole ++ n.decimals)) 10 (n.scale - n.decimals.length)
  unfold magnitude
  rw [show ((10 : Nat) : Rat) = 10 from rfl] at hscaled
  rw [← hscaled]
  rfl

section Layouts
variable {negative : Bool} {digits : List Char}

theorem magnitude_scientific (h : digits ≠ []) (top : Int) :
    (scientific negative digits top).magnitude = value digits * (10 : Rat) ^ (top + 1 - digits.length) := by
  have hscale : (scientific negative digits top).scale = top := by
    simp only [scale, scientific, value_decimal, decide_eq_true_eq]
    split <;> omega
  obtain ⟨c, cs, rfl⟩ := List.exists_cons_of_ne_nil h
  have hdecimals : (scientific negative (c :: cs) top).decimals = cs := by
    cases cs with
    | nil => rfl
    | cons c' cs => rfl
  have hwhole : (scientific negative (c :: cs) top).whole = [c] := rfl
  unfold magnitude
  rw [hscale, hdecimals, hwhole, List.singleton_append, List.length_cons]
  congr 2
  omega

theorem magnitude_afterPoint (zeros : Nat) :
    (afterPoint negative digits zeros).magnitude = value digits * (10 : Rat) ^ (-(zeros : Int) - digits.length) := by
  have hdecimals : (afterPoint negative digits zeros).decimals = List.replicate zeros '0' ++ digits := rfl
  have hvalue : value (['0'] ++ (List.replicate zeros '0' ++ digits)) = value digits := by
    rw [List.singleton_append, ← List.cons_append, ← List.replicate_succ, value_append, value_replicate, Nat.zero_mul,
      Nat.zero_add]
  unfold magnitude
  rw [hdecimals]
  show (value (['0'] ++ (List.replicate zeros '0' ++ digits)) : Rat) * 10 ^ (0 - _) = _
  rw [hvalue, List.length_append, List.length_replicate]
  congr 2
  push_cast
  omega

theorem magnitude_aroundPoint (width : Nat) :
    (aroundPoint negative digits width).magnitude = value digits * (10 : Rat) ^ ((width : Int) - digits.length) := by
  have hscale : (aroundPoint negative digits width).scale = 0 := rfl
  have hwhole : (aroundPoint negative digits width).whole =
      digits.take width ++ List.replicate (width - digits.length) '0' := rfl
  unfold magnitude
  rw [hscale, hwhole]
  by_cases hle : digits.length ≤ width
  · have hdecimals : (aroundPoint negative digits width).decimals = ['0'] := by
      simp [decimals, aroundPoint, List.drop_eq_nil_of_le hle]
    obtain ⟨k, rfl⟩ := Nat.exists_eq_add_of_le hle
    have hvalue : value (digits ++ List.replicate k '0' ++ ['0']) = value digits * 10 ^ k * 10 := by
      rw [value_append, value_append, value_replicate, List.length_replicate]
      rfl
    have hinv : (10 : Rat) ^ ((0 : Int) - (['0'] : List Char).length) = 10⁻¹ := zpow_neg_one 10
    have hpow : (10 : Rat) ^ (((digits.length + k : Nat) : Int) - digits.length) = 10 ^ k := by
      rw [Nat.cast_add, add_sub_cancel_left, zpow_natCast]
    rw [hdecimals, List.take_of_length_le hle, Nat.add_sub_cancel_left, hvalue, hinv, hpow, Nat.cast_mul, Nat.cast_mul,
      Nat.cast_pow]
    exact mul_inv_cancel_right₀ (by decide) _
  · have hdecimals : (aroundPoint negative digits width).decimals = digits.drop width := by
      simp [decimals, aroundPoint, hle]
    rw [hdecimals, Nat.sub_eq_zero_of_le (Nat.le_of_not_le hle), List.replicate_zero, List.append_nil,
      List.take_append_drop, List.length_drop]
    congr 2
    omega

end Layouts

theorem magnitude_ofDecimal (negative : Bool) {d : Binary64.Decimal} (h : d.digits = 0 → d.exponent = 0) :
    (ofDecimal negative d).magnitude = d.digits * (10 : Rat) ^ d.exponent := by
  have hlength : ((significant d.digits).length : Int) + zeros d.digits = (decimal d.digits).length := by
    exact_mod_cast length_significant d.digits
  have hvalue : (value (significant d.digits) : Rat) * 10 ^ (d.exponent + zeros d.digits) = d.digits * 10 ^ d.exponent := by
    conv => rhs; rw [← value_significant d.digits]
    rw [add_comm, zpow_add₀ (by decide), zpow_natCast, ← mul_assoc, Nat.cast_mul, Nat.cast_pow]
    rfl
  rw [← hvalue]
  unfold ofDecimal
  simp only
  split
  · rename_i htop
    have hne : significant d.digits ≠ [] := by
      apply significant_ne_nil
      intro hzero
      rw [hzero, h hzero] at htop
      exact absurd htop (by decide)
    rw [magnitude_scientific hne]
    congr 2
    omega
  · split
    · rw [magnitude_afterPoint]
      congr 2
      omega
    · rw [magnitude_aroundPoint]
      congr 2
      omega

/-! ### Integers and floating-point numbers -/

theorem exactly_ofInteger (n : Int) : (ofInteger n).exactly = n := by
  have hmagnitude : (ofInteger n).magnitude = (n.natAbs : Rat) := by
    show (value (decimal n.natAbs ++ []) : Rat) * 10 ^ ((0 : Int) - (0 : Nat)) = _
    rw [List.append_nil, value_decimal]
    exact mul_one _
  have habs : ((n.natAbs : Int) : Rat) = n.natAbs := Int.cast_natCast _
  rw [exactly_eq, hmagnitude, ← habs]
  by_cases h : n < 0
  · have hnegative : (ofInteger n).negative = true := decide_eq_true h
    rw [if_pos hnegative, Int.ofNat_natAbs_of_nonpos h.le, Int.cast_neg, neg_neg]
  · have hnegative : ¬(ofInteger n).negative = true := by simpa [ofInteger] using h
    rw [if_neg hnegative, Int.natAbs_of_nonneg (not_lt.mp h)]

/-- An integer that fits is read as it was written. -/
theorem number?_ofInteger (n : Integer) : (ofInteger n.toInt).number? = some (.integer n) := by
  obtain ⟨n, hlow, hhigh⟩ := n
  have hinteger : (ofInteger n).integer? = some ⟨n, hlow, hhigh⟩ := by
    unfold integer?
    simp only [ofInteger, value_decimal, Option.isSome_none, Bool.or_self, Bool.false_eq_true, if_false]
    by_cases h : n < 0
    · rw [if_pos (decide_eq_true h), dif_pos (by omega)]
      simp only [Option.some.injEq, Integer.mk.injEq]
      omega
    · rw [if_neg (by simpa using h), dif_pos (by omega)]
      simp only [Option.some.injEq, Integer.mk.injEq]
      omega
  unfold number?
  rw [hinteger]

theorem wellFormed_ofBinary64 (x : Binary64) : (ofBinary64 x).WellFormed := by
  have hrow : IsRow ['0'] := ⟨by decide, fun c hc => by rw [List.mem_singleton.mp hc]; rfl⟩
  unfold ofBinary64
  split
  · exact ⟨hrow, fun _ => rfl, fun ds hds => by cases hds; exact hrow, fun _ he => by cases he⟩
  · rename_i hz
    exact wellFormed_ofDecimal _ (Binary64.exponent_shortest (Bool.eq_false_iff.mpr hz))

theorem negative_ofDecimal (negative : Bool) (d : Binary64.Decimal) : (ofDecimal negative d).negative = negative := by
  unfold ofDecimal
  simp only
  split
  · rfl
  · split <;> rfl

theorem exactly_ofBinary64 (x : Binary64) : (ofBinary64 x).exactly = x.shown := by
  rw [exactly_eq]
  unfold ofBinary64 Binary64.shown
  split
  · have hmagnitude : magnitude ⟨x.isNegative, ['0'], some ['0'], none⟩ = 0 := zero_mul _
    rw [hmagnitude]
  · rename_i hz
    rw [magnitude_ofDecimal _ (Binary64.exponent_shortest (Bool.eq_false_iff.mpr hz)), negative_ofDecimal,
      Binary64.scaled_eq]
    rfl

theorem ofParts_isNegative {x : Binary64} (h : x.isZero = true) : Binary64.ofParts x.isNegative 0 = x := by
  obtain ⟨bits⟩ := x
  obtain ⟨hfield, hfraction⟩ : bits.toNat / Nat.pow 2 52 % Nat.pow 2 11 = 0 ∧ bits.toNat % Nat.pow 2 52 = 0 := by
    simpa [Binary64.isZero, Binary64.field, Binary64.fraction] using h
  have hlt := bits.toNat_lt
  simp only [Nat.pow_eq, Nat.reducePow] at hfield hfraction
  -- no bit but the sign may be set
  rcases (show bits.toNat = 0 ∨ bits.toNat = 9223372036854775808 by omega) with hbits | hbits
  · rw [← UInt64.toNat_inj.mp (show (0 : UInt64).toNat = bits.toNat from hbits.symm)]
    rfl
  · rw [← UInt64.toNat_inj.mp (show (9223372036854775808 : UInt64).toNat = bits.toNat from hbits.symm)]
    rfl

/-- A zero keeps its sign. -/
theorem number?_ofBinary64 {x : Binary64} (h : x.isZero = true) : (ofBinary64 x).number? = some (.float x) := by
  have hread : ∀ negative : Bool, number? ⟨negative, ['0'], some ['0'], none⟩ =
      some (.float (.ofParts negative 0)) := by decide
  unfold ofBinary64
  rw [if_pos h, hread, ofParts_isNegative h]

end Numeral
end Json
end SplitterLaunch
