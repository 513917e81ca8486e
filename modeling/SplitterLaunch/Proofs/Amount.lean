import Mathlib.Data.List.TakeWhile
import SplitterLaunch.Fiat
import SplitterLaunch.Proofs.Numeral

/-! Converting amounts never fails. The display unit is known under the name that is looked up, and the text
    of an amount with all of its decimals is read as the floating-point number nearest to the amount. -/

namespace SplitterLaunch
namespace Quantity
open Numeral

theorem toNat_lt_pow (q : Quantity) : q.toNat < 2 ^ 256 := q.toNat_lt

theorem exponent_ether : Units.exponent "ether" = .ok 18 := rfl

/-- The text in the display unit always exists. -/
theorem inUnitNamed_ether (q : Quantity) : q.inUnitNamed "ether" = .ok q.native := by
  unfold inUnitNamed
  rw [exponent_ether]
  rfl

/-- The digits before the point and the eighteen after it are those of the amount. -/
theorem value_inFull (q : Quantity) :
    value (Numeral.decimal (q.toNat / Nat.pow 10 18) ++ padded 18 (q.toNat % Nat.pow 10 18)) = q.toNat := by
  have hlt : q.toNat % Nat.pow 10 18 < 10 ^ 18 := Nat.mod_lt _ (by decide)
  rw [value_append, value_decimal, value_padded, length_padded (by decide) hlt]
  exact Nat.div_add_mod' _ _

theorem length_decimal_le (q : Quantity) : (Numeral.decimal q.toNat).length ≤ 78 :=
  (length_decimal_le_iff (by decide)).mpr (Nat.lt_trans q.toNat_lt_pow (by decide))

/-- An amount in the display unit, as the nearest floating-point number. -/
def toBinary64 (q : Quantity) : Binary64 := .nearest false (mkRat q.toNat (Nat.pow 10 18))

theorem ofDecimal_toNat (q : Quantity) : Binary64.ofDecimal false q.toNat (-18) = q.toBinary64 := by
  have hlen : (Nat.toDigits 10 q.toNat).length ≤ 78 := q.length_decimal_le
  unfold Binary64.ofDecimal toBinary64
  by_cases hz : q.toNat = 0
  · rw [hz]
    rfl
  · have hbelow : ¬(310 : Int) < (Nat.toDigits 10 q.toNat).length + -18 := by omega
    have habove : ¬((Nat.toDigits 10 q.toNat).length + -18 : Int) < -330 := by omega
    simp only [if_neg hz, if_neg hbelow, if_neg habove]
    rfl

theorem readDigits?_inFull (q : Quantity) :
    Binary64.readDigits? false (q.inFull 18) = some q.toBinary64 := by
  have hwhole : ∀ c ∈ Numeral.decimal (q.toNat / Nat.pow 10 18), c.isDigit = true := fun _ h => isDigit_of_mem_decimal h
  have hdecimals : ∀ c ∈ padded 18 (q.toNat % Nat.pow 10 18), c.isDigit = true := fun _ h =>
    isDigit_of_mem_padded h
  have hpoint : EndsDigits ('.' :: padded 18 (q.toNat % Nat.pow 10 18)) := by
    rintro c ⟨⟩
    rfl
  have hlt : q.toNat % Nat.pow 10 18 < 10 ^ 18 := Nat.mod_lt _ (by decide)
  have htake : (padded 18 (q.toNat % Nat.pow 10 18)).takeWhile Char.isDigit = padded 18 (q.toNat % Nat.pow 10 18) :=
    List.takeWhile_eq_self_iff.mpr hdecimals
  have hdrop : (padded 18 (q.toNat % Nat.pow 10 18)).dropWhile Char.isDigit = [] :=
    List.dropWhile_eq_nil_iff.mpr hdecimals
  have hne : (Numeral.decimal (q.toNat / Nat.pow 10 18)).isEmpty = false := by
    simp [decimal_ne_nil]
  unfold Binary64.readDigits? inFull
  rw [takeWhile_isDigit_append hwhole hpoint, dropWhile_isDigit_append hwhole hpoint]
  simp only [htake, hdrop, hne, value_inFull, length_padded (by decide : 0 < 18) hlt, Bool.false_and,
    Binary64.readExponent?]
  exact congrArg some (ofDecimal_toNat q)

theorem toLower_of_isDigit {c : Char} (h : c.isDigit = true) : c.toLower = c := by
  unfold Char.toLower
  split
  · rename_i hupper
    simp only [Char.isDigit, Bool.and_eq_true, decide_eq_true_eq] at h
    exact absurd (UInt32.le_trans hupper.1 h.2) (by decide)
  · rfl

/-- A text that starts with a digit is none of the words for what is no number. -/
theorem read?_of_digit {c : Char} (cs : List Char) (h : c.isDigit = true) :
    Binary64.read? (c :: cs) = Binary64.readDigits? false (c :: cs) := by
  have hsign : Binary64.splitSign (c :: cs) = (false, c :: cs) := by
    unfold Binary64.splitSign
    split
    · rename_i heq
      cases heq
      exact absurd h (by decide)
    · rename_i heq
      cases heq
      exact absurd h (by decide)
    · rfl
  have hword : ∀ (d : Char) (ds : List Char), d.isDigit = false →
      (String.ofList ((c :: cs).map Char.toLower) == String.ofList (d :: ds)) = false := by
    intro d ds hd
    rw [beq_eq_false_iff_ne]
    intro heq
    have hhead : c.toLower = d := by
      have := String.ofList_injective heq
      simp only [List.map_cons, List.cons.injEq] at this
      exact this.1
    have hlower : c.toLower = c := toLower_of_isDigit h
    rw [← hhead, hlower, h] at hd
    cases hd
  unfold Binary64.read?
  rw [hsign]
  have h1 := hword 'i' ['n', 'f'] rfl
  have h2 := hword 'i' ['n', 'f', 'i', 'n', 'i', 't', 'y'] rfl
  have h3 := hword 'n' ['a', 'n'] rfl
  simp only [show ("inf" : String) = String.ofList ['i', 'n', 'f'] from rfl,
    show ("infinity" : String) = String.ofList ['i', 'n', 'f', 'i', 'n', 'i', 't', 'y'] from rfl,
    show ("nan" : String) = String.ofList ['n', 'a', 'n'] from rfl, h1, h2, h3]
  rfl

/-- The number in the display unit always exists. -/
theorem displayed_eq (q : Quantity) : q.displayed = .ok q.toBinary64 := by
  have hread : Binary64.read? (q.inFull 18) = some q.toBinary64 := by
    rw [← readDigits?_inFull]
    cases hd : Numeral.decimal (q.toNat / Nat.pow 10 18) with
    | nil => exact absurd hd (decimal_ne_nil _)
    | cons c cs =>
      unfold inFull
      rw [hd]
      exact read?_of_digit _ (isDigit_of_mem_decimal (hd ▸ List.mem_cons_self))
  unfold displayed
  rw [exponent_ether]
  dsimp only [bind, Except.bind]
  rw [hread]
  rfl

end Quantity

namespace FiatAmount

/-- What an amount is worth, each rate rounding once. -/
def worth (amount : Quantity) (rates : FiatRates) : FiatAmount :=
  let usd := amount.toBinary64.mul rates.usdPerNative
  ⟨usd, usd.mul rates.usdToIdr⟩

theorem ofQuantity_eq (amount : Quantity) (rates : FiatRates) : ofQuantity amount rates = .ok (worth amount rates) := by
  unfold ofQuantity
  rw [amount.displayed_eq]
  rfl

end FiatAmount
end SplitterLaunch
