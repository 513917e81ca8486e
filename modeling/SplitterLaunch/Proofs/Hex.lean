import SplitterLaunch.FixedBytes

/-! Hexadecimal digits. Each is one byte long and stands for a number below sixteen, and what is written of a byte string
    holds digits only, two for each byte. -/

namespace SplitterLaunch
namespace Hex

theorem isDigit_digit {n : Nat} (h : n < 16) : isDigit (digit n) = true := by
  revert n; decide

theorem value?_lt {c : Char} {n : Nat} (h : value? c = some n) : n < 16 := by
  have h0 : '0'.toNat = 48 := rfl
  have ha : 'a'.toNat = 97 := rfl
  have hA : 'A'.toNat = 65 := rfl
  unfold value? at h
  split at h
  · rename_i hc
    have hlast : c.toNat ≤ 57 := hc.2
    cases h
    omega
  split at h
  · rename_i hc
    have hlast : c.toNat ≤ 102 := hc.2
    cases h
    omega
  split at h
  · rename_i hc
    have hlast : c.toNat ≤ 70 := hc.2
    cases h
    omega
  · cases h

theorem isDigit_iff {c : Char} : isDigit c = true ↔ ∃ n, value? c = some n := Option.isSome_iff_exists

/-- Digits are of one byte, as none comes after `f`. -/
theorem utf8Size_of_isDigit {c : Char} (h : isDigit c = true) : c.utf8Size = 1 := by
  have hle : c.toNat ≤ 102 := by
    unfold isDigit value? at h
    split at h
    · rename_i hc
      exact Nat.le_trans hc.2 (by decide)
    split at h
    · rename_i hc
      exact hc.2
    split at h
    · rename_i hc
      exact Nat.le_trans hc.2 (by decide)
    · cases h
  exact Char.utf8Size_eq_one_iff.mpr (Nat.le_trans hle (by decide))

theorem utf8Size_digit {n : Nat} (h : n < 16) : (digit n).utf8Size = 1 := utf8Size_of_isDigit (isDigit_digit h)

theorem isFiller_digit {n : Nat} (h : n < 16) : FixedBytes.isFiller (digit n) = false := by
  revert n; decide

theorem digit_of_mem_encode {bytes : List UInt8} {c : Char} (h : c ∈ encode bytes) : ∃ n, n < 16 ∧ c = digit n := by
  obtain ⟨b, -, hc⟩ := List.mem_flatMap.mp h
  have hb := b.toNat_lt
  simp only [encodeByte, List.mem_cons, List.not_mem_nil, or_false] at hc
  rcases hc with rfl | rfl
  · exact ⟨_, by omega, rfl⟩
  · exact ⟨_, by omega, rfl⟩

theorem length_encode (bytes : List UInt8) : (encode bytes).length = 2 * bytes.length := by
  induction bytes with
  | nil => rfl
  | cons b bytes ih =>
    show (encode bytes).length + 1 + 1 = 2 * (bytes.length + 1)
    omega

end Hex
end SplitterLaunch
