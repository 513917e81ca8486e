import Mathlib.Data.List.TakeWhile
import Mathlib.Data.Nat.Digits.Lemmas
import SplitterLaunch.Account
import SplitterLaunch.Proofs.Hex

/-! Keys as texts. A text of 64 hexadecimal digits, after at most one `0x`, is well formed for a key (`Spells`), so that
    nothing but its number can keep it from being one (`read_eq_error_iff`). -/

namespace SplitterLaunch

namespace FixedBytes

theorem stripMark_cases (cs : List Char) : cs = stripMark cs ∨ cs = '0' :: 'x' :: stripMark cs := by
  unfold stripMark
  split
  · exact .inr rfl
  · exact .inl rfl

theorem stripMark_of_digits {cs : List Char} (h : ∀ c ∈ cs, Hex.isDigit c = true) : stripMark cs = cs := by
  unfold stripMark
  split
  · exact absurd (h 'x' (by simp)) (by decide)
  · rfl

end FixedBytes

/-! ### The number of a row of digits -/

namespace Hex

/-- The number that a row of hexadecimal digits denotes, the last one counting ones. -/
def valueOf (digits : List Char) : Nat := Nat.ofDigits 16 (digits.reverse.map fun c => (value? c).getD 0)

theorem valueOf_cons (c : Char) (cs : List Char) :
    valueOf (c :: cs) = (value? c).getD 0 * 16 ^ cs.length + valueOf cs := by
  unfold valueOf
  rw [List.reverse_cons, List.map_append, Nat.ofDigits_append, List.map_singleton, Nat.ofDigits_singleton,
    List.length_map, List.length_reverse]
  ring

theorem valueOf_lt (cs : List Char) : valueOf cs < 16 ^ cs.length := by
  have hdigit : ∀ n ∈ cs.reverse.map fun c => (value? c).getD 0, n < 16 := by
    intro n hn
    obtain ⟨c, -, rfl⟩ := List.mem_map.mp hn
    cases hc : value? c with
    | none => decide
    | some m => exact value?_lt hc
  have hlt := Nat.ofDigits_lt_base_pow_length (by decide : 1 < 16) hdigit
  rwa [List.length_map, List.length_reverse] at hlt

/-- Digits that are read after others move those up by as many places. -/
theorem foldl_value? {cs : List Char} (h : ∀ c ∈ cs, isDigit c = true) (acc : Nat) :
    cs.foldl (fun acc c => do return (← acc) * 16 + (← value? c)) (some acc) =
      some (acc * 16 ^ cs.length + valueOf cs) := by
  induction cs generalizing acc with
  | nil => simp [valueOf]
  | cons c cs ih =>
    rw [List.forall_mem_cons] at h
    obtain ⟨n, hn⟩ := isDigit_iff.mp h.1
    have hstep : (do return (← some acc) * 16 + (← value? c) : Option Nat) = some (acc * 16 + n) := by rw [hn]; rfl
    rw [List.foldl_cons, hstep, ih h.2, valueOf_cons, hn, List.length_cons, Option.getD_some]
    congr 1
    ring

theorem number?_eq_valueOf {cs : List Char} (h : ∀ c ∈ cs, isDigit c = true) : number? cs = some (valueOf cs) := by
  rw [number?, foldl_value? h, Nat.zero_mul, Nat.zero_add]

end Hex

/-! ### Keys -/

namespace Key
variable {text : String} {digits : List Char} {key : Key} {fault : Fault}

/-- Whether a text spells 32 bytes: 64 hexadecimal digits, after at most one `0x`. -/
structure Spells (text : String) (digits : List Char) : Prop where
  marked : text.toList = digits ∨ text.toList = '0' :: 'x' :: digits
  length : digits.length = 64
  digit : ∀ c ∈ digits, Hex.isDigit c = true

theorem Spells.stripMark_eq (h : Spells text digits) : FixedBytes.stripMark text.toList = digits := by
  rcases h.marked with hplain | hmarked
  · rw [hplain, FixedBytes.stripMark_of_digits h.digit]
  · rw [hmarked]
    rfl

theorem exists_spells_iff : (∃ digits, Spells text digits) ↔
    (FixedBytes.stripMark text.toList).length = 64 ∧
      ∀ c ∈ FixedBytes.stripMark text.toList, Hex.isDigit c = true := by
  constructor
  · rintro ⟨digits, h⟩
    rw [h.stripMark_eq]
    exact ⟨h.length, h.digit⟩
  · rintro ⟨hlength, hdigit⟩
    exact ⟨_, FixedBytes.stripMark_cases _, hlength, hdigit⟩

/-- An `0X` that does not count would have to stand before the digits, among which there is no `X`. -/
theorem Spells.digitsOf_eq (h : Spells text digits) : digitsOf text = digits := by
  have hupper : ∀ cs, text.toList ≠ '0' :: 'X' :: cs := by
    intro cs hcs
    rcases h.marked with hplain | hmarked
    · exact absurd (h.digit 'X' (by simp [← hplain, hcs])) (by decide)
    · simp [hmarked] at hcs
  unfold digitsOf
  split
  · exact absurd ‹_› (hupper _)
  · exact h.stripMark_eq

theorem Spells.valueOf_lt (h : Spells text digits) : Hex.valueOf digits < 2 ^ 256 := by
  have hlt := Hex.valueOf_lt digits
  rw [h.length] at hlt
  calc Hex.valueOf digits < 16 ^ 64 := hlt
    _ = 2 ^ 256 := by norm_num

theorem ofNat?_eq_some_iff {n : Nat} : ofNat? n = some key ↔ key.secret = n := by
  unfold ofNat?
  split
  · cases key
    simp [eq_comm]
  · rename_i hn
    simp only [reduceCtorEq, false_iff]
    rintro rfl
    exact hn ⟨key.pos, key.lt_order⟩

theorem ofNat?_eq_none_iff {n : Nat} : ofNat? n = none ↔ n = 0 ∨ Curve.order ≤ n := by
  unfold ofNat?
  split <;> simp <;> omega

/-- Of a well-formed text the number is read, and nothing but that is left to be wrong. -/
theorem Spells.read_eq (h : Spells text digits) :
    read text = match ofNat? (Hex.valueOf digits) with
      | some key => .ok key
      | none => .error .outOfRange := by
  have hbytes : Text.byteLength digits = 64 :=
    (Text.byteLength_of_utf8Size fun c hc => Hex.utf8Size_of_isDigit (h.digit c hc)).trans h.length
  have hrest : digits.dropWhile Hex.isDigit = [] := List.dropWhile_eq_nil_iff.mpr h.digit
  unfold read
  simp only [h.digitsOf_eq, hbytes, hrest, h.length, Hex.number?_eq_valueOf h.digit, Option.bind_some]
  rfl

theorem Spells.read_eq_ok_iff (h : Spells text digits) : read text = .ok key ↔ key.secret = Hex.valueOf digits := by
  rw [h.read_eq, ← ofNat?_eq_some_iff]
  cases ofNat? (Hex.valueOf digits) <;> simp

theorem Spells.read_eq_error_iff (h : Spells text digits) : read text = .error fault ↔
    fault = .outOfRange ∧ (Hex.valueOf digits = 0 ∨ Curve.order ≤ Hex.valueOf digits) := by
  rw [h.read_eq, ← ofNat?_eq_none_iff]
  cases ofNat? (Hex.valueOf digits) <;> simp [eq_comm]

end Key
end SplitterLaunch
