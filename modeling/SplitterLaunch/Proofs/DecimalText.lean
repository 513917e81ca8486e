import Mathlib.Algebra.Order.Field.Rat
import Mathlib.Data.List.DropRight
import Mathlib.Data.Nat.Cast.Order.Field
import Mathlib.Tactic.FieldSimp
import Mathlib.Tactic.Ring
import SplitterLaunch.Proofs.Numeral
import SplitterLaunch.Quantity.Units

/-! Decimal numbers as texts: digits, with at most one point among them. The text of a quantity in a unit is such
    a number, and its amount is the quantity in that unit exactly, so different quantities have different texts. -/

namespace SplitterLaunch
namespace DecimalText
open Numeral

/-- The part before the first point. -/
def whole (cs : List Char) : List Char := cs.takeWhile (· ≠ '.')

/-- The part after the first point; there is nothing in it if there is no point. -/
def decimals (cs : List Char) : List Char := (cs.dropWhile (· ≠ '.')).drop 1

/-- A decimal number: digits, with at most one point among them, and at least one digit. -/
structure WellFormed (cs : List Char) : Prop where
  plain : ∀ c ∈ cs, c.isDigit = true ∨ c = '.'
  point : cs.count '.' ≤ 1
  digit : ∃ c ∈ cs, c.isDigit = true

/-- The number that a text denotes whose characters are digits but for a point. -/
def amount (cs : List Char) : Rat := value (whole cs ++ decimals cs) / 10 ^ (decimals cs).length

/-! ### Both sides of the point -/

theorem isDigit_ne_point {c : Char} (h : c.isDigit = true) : c ≠ '.' := by
  rintro rfl
  cases h

theorem whole_append {xs ys : List Char} (hxs : ∀ c ∈ xs, c.isDigit = true) : whole (xs ++ '.' :: ys) = xs := by
  have hne : ∀ c ∈ xs, decide (c ≠ '.') = true := fun c hc => decide_eq_true (isDigit_ne_point (hxs c hc))
  unfold whole
  rw [List.takeWhile_append_of_pos hne, List.takeWhile_cons_of_neg (by decide), List.append_nil]

theorem decimals_append {xs ys : List Char} (hxs : ∀ c ∈ xs, c.isDigit = true) : decimals (xs ++ '.' :: ys) = ys := by
  have hne : ∀ c ∈ xs, decide (c ≠ '.') = true := fun c hc => decide_eq_true (isDigit_ne_point (hxs c hc))
  unfold decimals
  rw [List.dropWhile_append_of_pos hne, List.dropWhile_cons_of_neg (by decide)]
  rfl

/-- A text is its two parts, with the point between them if it has one. -/
theorem split (cs : List Char) : (cs = whole cs ∧ decimals cs = []) ∨ cs = whole cs ++ '.' :: decimals cs := by
  have happend : cs.takeWhile (· ≠ '.') ++ cs.dropWhile (· ≠ '.') = cs := List.takeWhile_append_dropWhile
  unfold whole decimals
  cases hrest : cs.dropWhile (· ≠ '.') with
  | nil =>
    rw [hrest, List.append_nil] at happend
    exact .inl ⟨happend.symm, rfl⟩
  | cons c rest =>
    have hstop := List.head?_dropWhile_not (fun c => decide (c ≠ '.')) cs
    rw [hrest] at hstop happend
    obtain rfl : c = '.' := by simpa using hstop
    exact .inr happend.symm

theorem not_mem_whole (cs : List Char) : '.' ∉ whole cs := fun h => by
  simpa using List.mem_takeWhile_imp h

theorem mem_of_mem_sides {cs : List Char} {c : Char} (h : c ∈ whole cs ++ decimals cs) : c ∈ cs := by
  rcases split cs with ⟨hcs, hnone⟩ | hcs
  · rw [hnone, List.append_nil, ← hcs] at h
    exact h
  · rw [hcs]
    rcases List.mem_append.mp h with h | h
    · exact List.mem_append_left _ h
    · exact List.mem_append_right _ (List.mem_cons_of_mem _ h)

theorem mem_sides {cs : List Char} {c : Char} (h : c ∈ cs) (hc : c ≠ '.') : c ∈ whole cs ++ decimals cs := by
  rcases split cs with ⟨hcs, -⟩ | hcs
  · exact List.mem_append_left _ (hcs ▸ h)
  · rw [hcs] at h
    rcases List.mem_append.mp h with h | h
    · exact List.mem_append_left _ h
    · exact List.mem_append_right _ ((List.mem_cons.mp h).resolve_left hc)

/-- A decimal number has digits on both sides of the point, though perhaps none on one of them. -/
theorem wellFormed_iff {cs : List Char} : WellFormed cs ↔
    (∀ c ∈ whole cs ++ decimals cs, c.isDigit = true) ∧ ∃ c ∈ cs, c.isDigit = true := by
  constructor
  · rintro ⟨hplain, hpoint, hdigit⟩
    refine ⟨fun c hc => (hplain c (mem_of_mem_sides hc)).resolve_right ?_, hdigit⟩
    rintro rfl
    rcases List.mem_append.mp hc with hc | hc
    · exact not_mem_whole cs hc
    -- A point after the first one would be a second one.
    · rcases split cs with ⟨-, hnone⟩ | hcs
      · rw [hnone] at hc
        cases hc
      · rw [hcs, List.count_append, List.count_cons_self] at hpoint
        have := List.one_le_count_iff.mpr hc
        omega
  · rintro ⟨hdigits, hdigit⟩
    refine ⟨fun c hc => ?_, ?_, hdigit⟩
    · by_cases hpoint : c = '.'
      · exact .inr hpoint
      · exact .inl (hdigits c (mem_sides hc hpoint))
    · have hwhole : (whole cs).count '.' = 0 := List.count_eq_zero.mpr (not_mem_whole cs)
      have hdecimals : (decimals cs).count '.' = 0 :=
        List.count_eq_zero.mpr fun h => isDigit_ne_point (hdigits _ (List.mem_append_right _ h)) rfl
      rcases split cs with ⟨hcs, -⟩ | hcs
      · rw [hcs, hwhole]
        exact Nat.zero_le 1
      · rw [hcs, List.count_append, List.count_cons_self, hwhole, hdecimals]

instance (cs : List Char) : Decidable (WellFormed cs) :=
  @decidable_of_iff _ _ wellFormed_iff.symm (@instDecidableAnd _ _ (List.decidableBAll _ _) (List.decidableBEx _ _))

end DecimalText

/-! ### Amounts in a unit -/

namespace Units
open Numeral

/-- Trimming drops nothing but zeros at the end. -/
theorem trimZeros_append (ds : List Char) : ∃ k, trimZeros ds ++ List.replicate k '0' = ds := by
  cases ds with
  | nil => exact ⟨0, rfl⟩
  | cons d ds =>
    have hzeros : ds.rtakeWhile (· == '0') = List.replicate (ds.rtakeWhile (· == '0')).length '0' := by
      rw [List.eq_replicate_iff]
      exact ⟨rfl, fun c hc => beq_iff_eq.mp (List.mem_rtakeWhile_imp (p := (· == '0')) hc)⟩
    refine ⟨(ds.rtakeWhile (· == '0')).length, ?_⟩
    rw [← hzeros]
    exact congrArg (d :: ·) List.rdropWhile_append_rtakeWhile

end Units

namespace Quantity
open Numeral DecimalText

section
variable (e : Nat) (q : Quantity)

theorem isDigit_of_mem_fractionDigits {c : Char} (h : c ∈ q.fractionDigits e) : c.isDigit = true := by
  obtain ⟨k, hk⟩ := Units.trimZeros_append (padded e (q.toNat % Nat.pow 10 e))
  exact isDigit_of_mem_padded (hk ▸ List.mem_append_left _ h)

/-- The digits after the point are the rest in the unit. -/
theorem value_fractionDigits : (value (q.fractionDigits e) : Rat) / 10 ^ (q.fractionDigits e).length =
    (q.toNat % 10 ^ e : Nat) / 10 ^ e := by
  have hlt : q.toNat % 10 ^ e < 10 ^ e := Nat.mod_lt _ (Nat.pow_pos (by decide))
  obtain ⟨k, hk⟩ := Units.trimZeros_append (padded e (q.toNat % Nat.pow 10 e))
  change q.fractionDigits e ++ List.replicate k '0' = padded e (q.toNat % 10 ^ e) at hk
  have hvalue : value (q.fractionDigits e) * 10 ^ k = q.toNat % 10 ^ e := by
    have h := congrArg value hk
    rwa [value_padded, value_append, value_replicate, List.length_replicate, Nat.add_zero] at h
  rcases Nat.eq_zero_or_pos e with rfl | he
  · have hzero : value (q.fractionDigits 0) = 0 := by
      rw [Nat.pow_zero, Nat.mod_one] at hvalue
      exact (Nat.mul_eq_zero.mp hvalue).resolve_right (Nat.pow_pos (by decide)).ne'
    rw [hzero, Nat.pow_zero, Nat.mod_one, Nat.cast_zero, zero_div, zero_div]
  · have hlength : (q.fractionDigits e).length + k = e := by
      have h := congrArg List.length hk
      rwa [length_padded he hlt, List.length_append, List.length_replicate] at h
    have hpow : (10 : Rat) ^ e = 10 ^ (q.fractionDigits e).length * 10 ^ k := by rw [← pow_add, hlength]
    rw [div_eq_div_iff (pow_ne_zero _ (by decide)) (pow_ne_zero _ (by decide)), ← hvalue, hpow]
    push_cast
    ring

theorem toList_inUnit : (q.inUnit e).toList = Numeral.decimal (q.toNat / 10 ^ e) ++ '.' :: q.fractionDigits e := by
  unfold inUnit
  rw [String.toList_ofList]
  rfl

theorem whole_inUnit : whole (q.inUnit e).toList = Numeral.decimal (q.toNat / 10 ^ e) := by
  rw [toList_inUnit]
  exact whole_append fun _ h => isDigit_of_mem_decimal h

theorem decimals_inUnit : decimals (q.inUnit e).toList = q.fractionDigits e := by
  rw [toList_inUnit]
  exact decimals_append fun _ h => isDigit_of_mem_decimal h

theorem wellFormed_inUnit : WellFormed (q.inUnit e).toList := by
  obtain ⟨c, cs, hcs⟩ := List.exists_cons_of_ne_nil (decimal_ne_nil (q.toNat / 10 ^ e))
  have hc : c.isDigit = true := isDigit_of_mem_decimal (hcs ▸ List.mem_cons_self)
  refine wellFormed_iff.mpr ⟨fun d hd => ?_, c, ?_, hc⟩
  · rw [whole_inUnit, decimals_inUnit] at hd
    rcases List.mem_append.mp hd with hd | hd
    · exact isDigit_of_mem_decimal hd
    · exact q.isDigit_of_mem_fractionDigits e hd
  · rw [toList_inUnit, hcs]
    exact List.mem_cons_self

/-- The text of a quantity in a unit denotes exactly what it is in that unit. -/
theorem amount_inUnit : amount (q.inUnit e).toList = q.toNat / 10 ^ e := by
  have hpow : (10 : Rat) ^ e ≠ 0 := pow_ne_zero _ (by decide)
  have hlength : (10 : Rat) ^ (q.fractionDigits e).length ≠ 0 := pow_ne_zero _ (by decide)
  unfold amount
  rw [whole_inUnit, decimals_inUnit, value_append, value_decimal]
  calc ((q.toNat / 10 ^ e * 10 ^ (q.fractionDigits e).length + value (q.fractionDigits e) : Nat) : Rat) /
        10 ^ (q.fractionDigits e).length
      = (q.toNat / 10 ^ e : Nat) + (value (q.fractionDigits e) : Rat) / 10 ^ (q.fractionDigits e).length := by
        push_cast
        field_simp
    _ = (q.toNat / 10 ^ e : Nat) + ((q.toNat % 10 ^ e : Nat) : Rat) / 10 ^ e := by rw [value_fractionDigits]
    _ = ((q.toNat / 10 ^ e * 10 ^ e + q.toNat % 10 ^ e : Nat) : Rat) / 10 ^ e := by
        push_cast
        field_simp
    _ = q.toNat / 10 ^ e := by rw [Nat.div_add_mod']

end

/-- Different quantities have different texts in the same unit. -/
theorem inUnit_injective {e : Nat} {q q' : Quantity} (h : q.inUnit e = q'.inUnit e) : q = q' := by
  have hamount := congrArg (fun s : String => amount s.toList) h
  simp only [amount_inUnit] at hamount
  rw [div_left_inj' (pow_ne_zero _ (by decide))] at hamount
  exact ext (by exact_mod_cast hamount)

end Quantity
end SplitterLaunch
