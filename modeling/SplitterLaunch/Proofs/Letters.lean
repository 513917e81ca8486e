import Mathlib.Data.List.Forall2

/-! Letters of ASCII in either case. Lowering a character changes capitals alone, so two texts are equal once they are
    lowered exactly if they are equal but for the case of such letters (`map_toLower_eq_iff`). -/

namespace SplitterLaunch
namespace Text
variable {c d : Char}

theorem toNat_toLower (c : Char) : c.toLower.toNat = if 65 ≤ c.toNat ∧ c.toNat ≤ 90 then c.toNat + 32 else c.toNat := by
  unfold Char.toLower
  split <;> rename_i h <;> simp only [ge_iff_le, UInt32.le_iff_toNat_le] at h
  · have hrange : 65 ≤ c.toNat ∧ c.toNat ≤ 90 := h
    rw [if_pos hrange]
    show (c.val + 32).toNat = c.toNat + 32
    rw [UInt32.toNat_add]
    exact Nat.mod_eq_of_lt (Nat.lt_of_le_of_lt (Nat.add_le_add_right hrange.2 32) (by decide))
  · exact (if_neg h).symm

theorem isUpper_iff : c.isUpper = true ↔ 65 ≤ c.toNat ∧ c.toNat ≤ 90 := by
  show decide (c.val ≥ 65 ∧ c.val ≤ 90) = true ↔ _
  rw [decide_eq_true_eq, ge_iff_le, UInt32.le_iff_toNat_le, UInt32.le_iff_toNat_le]
  rfl

theorem isLower_iff : c.isLower = true ↔ 97 ≤ c.toNat ∧ c.toNat ≤ 122 := by
  show (decide (c.val ≥ 97) && decide (c.val ≤ 122)) = true ↔ _
  rw [Bool.and_eq_true, decide_eq_true_eq, decide_eq_true_eq, ge_iff_le, UInt32.le_iff_toNat_le, UInt32.le_iff_toNat_le]
  rfl

theorem toNat_toUpper (h : c.isLower = true) : c.toUpper.toNat + 32 = c.toNat := by
  obtain ⟨hlow, hhigh⟩ : 97 ≤ c.val.toNat ∧ c.val.toNat ≤ 122 := isLower_iff.mp h
  unfold Char.toUpper
  rw [dif_pos ⟨UInt32.le_iff_toNat_le.mpr hlow, UInt32.le_iff_toNat_le.mpr hhigh⟩]
  show (c.val + 4294967264).toNat + 32 = c.val.toNat
  rw [UInt32.toNat_add]
  show (c.val.toNat + 4294967264) % 4294967296 + 32 = c.val.toNat
  omega

/-- Lowering gives a small letter from itself and its capital alone. -/
theorem toLower_eq_iff {letter c : Char} (h : letter.isLower = true) :
    c.toLower = letter ↔ c = letter ∨ c = letter.toUpper := by
  have hupper := toNat_toUpper h
  have hrange := isLower_iff.mp h
  rw [← Char.toNat_inj, ← Char.toNat_inj, ← Char.toNat_inj, toNat_toLower]
  split <;> omega

/-! ### Texts but for the case of letters -/

/-- Whether a character is the capital of a small letter. -/
def IsCapitalOf (capital letter : Char) : Prop := letter.isLower = true ∧ capital = letter.toUpper

/-- Whether two characters are the same, or one letter in two cases. -/
def SameLetter (c d : Char) : Prop := c = d ∨ IsCapitalOf c d ∨ IsCapitalOf d c

/-- Whether two texts are the same but for the case of letters. -/
def SameButCase (s t : String) : Prop := List.Forall₂ SameLetter s.toList t.toList

theorem isCapitalOf_iff : IsCapitalOf c d ↔ 65 ≤ c.toNat ∧ c.toNat ≤ 90 ∧ c.toNat + 32 = d.toNat := by
  unfold IsCapitalOf
  constructor
  · rintro ⟨hlower, rfl⟩
    have hupper := toNat_toUpper hlower
    have hrange := isLower_iff.mp hlower
    omega
  · rintro ⟨hlow, hhigh, hsum⟩
    have hlower : d.isLower = true := isLower_iff.mpr (by omega)
    have hupper := toNat_toUpper hlower
    exact ⟨hlower, Char.toNat_inj.mp (by omega)⟩

theorem toLower_eq_toLower_iff : c.toLower = d.toLower ↔ SameLetter c d := by
  unfold SameLetter
  rw [isCapitalOf_iff, isCapitalOf_iff, ← Char.toNat_inj, ← Char.toNat_inj, toNat_toLower, toNat_toLower]
  split <;> split <;> omega

theorem map_toLower_eq_iff {cs ds : List Char} :
    cs.map Char.toLower = ds.map Char.toLower ↔ List.Forall₂ SameLetter cs ds := by
  rw [← List.forall₂_eq_eq_eq, List.forall₂_map_left_iff, List.forall₂_map_right_iff]
  simp only [toLower_eq_toLower_iff]

/-- A letter is one in either case, and what is no letter has no cases. -/
theorem SameLetter.isAlpha (h : SameLetter c d) (hc : c.isAlpha = true) : d.isAlpha = true := by
  unfold Char.isAlpha at hc ⊢
  rw [Bool.or_eq_true, isUpper_iff, isLower_iff] at hc ⊢
  rcases h with rfl | h | h
  · exact hc
  · have := isCapitalOf_iff.mp h
    omega
  · have := isCapitalOf_iff.mp h
    omega

theorem SameButCase.refl (s : String) : SameButCase s s := map_toLower_eq_iff.mp rfl

theorem SameButCase.isAlpha {s t : String} (h : SameButCase s t) (hs : ∀ c ∈ s.toList, c.isAlpha = true) :
    ∀ c ∈ t.toList, c.isAlpha = true := by
  have hall {cs ds : List Char} (h : List.Forall₂ SameLetter cs ds) (hcs : ∀ c ∈ cs, c.isAlpha = true) :
      ∀ d ∈ ds, d.isAlpha = true := by
    induction h with
    | nil => exact hcs
    | cons hhead _ ih =>
      rw [List.forall_mem_cons] at hcs ⊢
      exact ⟨hhead.isAlpha hcs.1, ih hcs.2⟩
  exact hall h hs

end Text
end SplitterLaunch
