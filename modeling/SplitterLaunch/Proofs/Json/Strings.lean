import SplitterLaunch.Json.Text
import SplitterLaunch.Proofs.Hex

/-! Texts in JSON. What is written between two quotes ends at the closing one, whatever stands behind it, and
    denotes the text that it was written for. Both are read off how one character is written. -/

namespace SplitterLaunch
namespace Json

/-- How a character may be written: as an escape of one letter, as one of four digits, or as itself. -/
inductive Escape (c : Char) : List Char → Prop where
  | letter (e : Char) (he : isEscape e = true) (hc : unescape e = c) : Escape c ['\\', e]
  | digits (h : c.toNat < 0x20) :
    Escape c ['\\', 'u', '0', '0', Hex.digit (c.toNat / 16), Hex.digit (c.toNat % 16)]
  | plain (hq : c ≠ '"') (hb : c ≠ '\\') (h : 0x20 ≤ c.toNat) : Escape c [c]

theorem escape_escaped (c : Char) : Escape c (escaped c) := by
  unfold escaped
  split
  · rename_i h
    rcases Bool.or_eq_true_iff.mp h with h | h <;> obtain rfl := beq_iff_eq.mp h
    · exact .letter '"' rfl rfl
    · exact .letter '\\' rfl rfl
  · rename_i hplain
    split
    · rename_i h
      obtain rfl := beq_iff_eq.mp h
      exact .letter 'b' rfl rfl
    · split
      · rename_i h
        obtain rfl := beq_iff_eq.mp h
        exact .letter 'f' rfl rfl
      · split
        · rename_i h
          obtain rfl := beq_iff_eq.mp h
          exact .letter 'n' rfl rfl
        · split
          · rename_i h
            obtain rfl := beq_iff_eq.mp h
            exact .letter 'r' rfl rfl
          · split
            · rename_i h
              obtain rfl := beq_iff_eq.mp h
              exact .letter 't' rfl rfl
            · split
              · rename_i h
                exact .digits h
              · rename_i h
                simp only [Bool.or_eq_true, beq_iff_eq, not_or] at hplain
                exact .plain hplain.1 hplain.2 (Nat.not_lt.mp h)

theorem isEscape_ne_u {e : Char} (h : isEscape e = true) : e ≠ 'u' := by
  rintro rfl
  exact absurd h (by decide)

/-! ### Where a string ends -/

theorem stringBody?_escape {c : Char} {cs : List Char} (h : Escape c cs) (rest : List Char) :
    stringBody? (cs ++ rest) = (stringBody? rest).map fun (body, after) => (cs ++ body, after) := by
  cases h with
  | letter e he hc =>
    show stringBody? ('\\' :: e :: rest) = _
    rw [stringBody?]
    · rw [if_pos he]
      rfl
    · rintro a b c d cs ⟨⟩
      exact absurd rfl (isEscape_ne_u he)
  | digits hlt =>
    have hdigits : [('0' : Char), '0', Hex.digit (c.toNat / 16), Hex.digit (c.toNat % 16)].all Hex.isDigit = true := by
      simp only [List.all_cons, List.all_nil, Hex.isDigit_digit (show c.toNat / 16 < 16 by omega),
        Hex.isDigit_digit (show c.toNat % 16 < 16 by omega)]
      rfl
    show stringBody? ('\\' :: 'u' :: '0' :: '0' :: Hex.digit (c.toNat / 16) :: Hex.digit (c.toNat % 16) :: rest) = _
    rw [stringBody?, if_pos hdigits]
    rfl
  | plain hq hb hle =>
    show stringBody? (c :: rest) = _
    rw [stringBody?]
    · have hplain : (decide (c.toNat < 0x20) || c == '\\') = false := by
        simp only [Bool.or_eq_false_iff, decide_eq_false_iff_not, beq_eq_false_iff_ne]
        exact ⟨Nat.not_lt.mpr hle, hb⟩
      rw [if_neg (by simp [hplain])]
      rfl
    · rintro rfl
      exact absurd rfl hq
    · rintro a b c d cs rfl
      exact absurd rfl hb
    · rintro e cs rfl
      exact absurd rfl hb

theorem stringBody?_flatMap (cs rest : List Char) :
    stringBody? (cs.flatMap escaped ++ '"' :: rest) = some (cs.flatMap escaped, rest) := by
  induction cs with
  | nil =>
    show stringBody? ('"' :: rest) = some ([], rest)
    rw [stringBody?]
  | cons c cs ih =>
    rw [List.flatMap_cons, List.append_assoc, stringBody?_escape (escape_escaped c), ih]
    rfl

/-! ### What a string denotes -/

theorem unit_control {c : Char} (h : c.toNat < 0x20) :
    unit '0' '0' (Hex.digit (c.toNat / 16)) (Hex.digit (c.toNat % 16)) = c.toNat := by
  have hnumber : Hex.number? ['0', '0', Hex.digit (c.toNat / 16), Hex.digit (c.toNat % 16)] = some c.toNat := by
    show (do return (← (do return (← some 0) * 16 + (← Hex.value? (Hex.digit (c.toNat / 16))))) * 16 +
      (← Hex.value? (Hex.digit (c.toNat % 16)))) = some c.toNat
    rw [Hex.value?_digit (show c.toNat / 16 < 16 by omega), Hex.value?_digit (show c.toNat % 16 < 16 by omega)]
    show some ((0 * 16 + c.toNat / 16) * 16 + c.toNat % 16) = some c.toNat
    congr 1
    omega
  unfold unit
  rw [hnumber]
  rfl

theorem text?_letter {e : Char} (he : e ≠ 'u') (rest : List Char) :
    text? ('\\' :: e :: rest) = (text? rest).map (unescape e :: ·) := by
  rw [text?.eq_def]
  split
  · rename_i heq
    cases heq
  · rename_i heq
    cases heq
    exact absurd rfl he
  · rename_i heq
    cases heq
    rfl
  · rename_i hne heq
    cases heq
    exact (hne _ _ rfl rfl).elim

theorem text?_digits {a b c d : Char} (hlow : isLowSurrogate (unit a b c d) = false)
    (hhigh : isHighSurrogate (unit a b c d) = false) (rest : List Char) :
    text? ('\\' :: 'u' :: a :: b :: c :: d :: rest) = (text? rest).map (Char.ofNat (unit a b c d) :: ·) := by
  rw [text?.eq_def]
  simp only [hlow, hhigh]
  rfl

theorem text?_plain {c : Char} (hb : c ≠ '\\') (rest : List Char) : text? (c :: rest) = (text? rest).map (c :: ·) := by
  -- only the left side: the other one is the same function on the rest
  conv => lhs; rw [text?.eq_def]
  split
  · rename_i heq
    cases heq
  · rename_i heq
    cases heq
    exact absurd rfl hb
  · rename_i heq
    cases heq
    exact absurd rfl hb
  · rename_i heq
    cases heq
    rfl

theorem text?_escape {c : Char} {cs : List Char} (h : Escape c cs) (rest : List Char) :
    text? (cs ++ rest) = (text? rest).map (c :: ·) := by
  cases h with
  | letter e he hc => exact hc ▸ text?_letter (isEscape_ne_u he) rest
  | digits hlt =>
    have hunit := unit_control hlt
    have hlow : isLowSurrogate c.toNat = false := by
      simp only [isLowSurrogate, Bool.and_eq_false_iff, decide_eq_false_iff_not]
      omega
    have hhigh : isHighSurrogate c.toNat = false := by
      simp only [isHighSurrogate, Bool.and_eq_false_iff, decide_eq_false_iff_not]
      omega
    have hdigits := text?_digits (hunit.symm ▸ hlow) (hunit.symm ▸ hhigh) rest
    rw [hunit, Char.ofNat_toNat] at hdigits
    exact hdigits
  | plain hq hb hle => exact text?_plain hb rest

theorem text?_flatMap (cs : List Char) : text? (cs.flatMap escaped) = some cs := by
  induction cs with
  | nil => rfl
  | cons c cs ih =>
    rw [List.flatMap_cons, text?_escape (escape_escaped c), ih]
    rfl

end Json
end SplitterLaunch
