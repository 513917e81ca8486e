import SplitterLaunch.Proofs.DecimalText
import SplitterLaunch.Proofs.Letters

/-! Amounts in a unit that is named. The text is canonical: zeros stand neither before its whole part nor after its
    decimals, but for one digit on each side of the point. An amount has one canonical text and no other, so a text
    tells the amount, whatever the unit; and the names of the units are all that is taken for one. -/

namespace SplitterLaunch

namespace Units

/-! ### Trimming -/

/-- Digits without superfluous zeros at the end: the last one is no zero unless it is the only one. -/
def Trimmed (ds : List Char) : Prop := ds ≠ [] ∧ (ds.getLast? = some '0' → ds = ['0'])

theorem trimmed_trimZeros {ds : List Char} (h : ds ≠ []) : Trimmed (trimZeros ds) := by
  obtain ⟨d, ds, rfl⟩ := List.exists_cons_of_ne_nil h
  show Trimmed (d :: ds.rdropWhile (· == '0'))
  refine ⟨List.cons_ne_nil _ _, fun hlast => ?_⟩
  by_cases hnil : ds.rdropWhile (· == '0') = []
  · rw [hnil] at hlast ⊢
    cases hlast
    rfl
  · have hstop := List.rdropWhile_last_not (· == '0') ds hnil
    rw [List.getLast?_cons, List.getLast?_eq_some_getLast hnil] at hlast
    exact absurd (beq_iff_eq.mpr (Option.some.inj hlast)) hstop

theorem length_trimZeros_le (ds : List Char) : (trimZeros ds).length ≤ ds.length := by
  obtain ⟨k, hk⟩ := trimZeros_append ds
  have hlength := congrArg List.length hk
  rw [List.length_append] at hlength
  omega

theorem trimZeros_of_trimmed {ds : List Char} (h : Trimmed ds) : trimZeros ds = ds := by
  obtain ⟨d, ds, rfl⟩ := List.exists_cons_of_ne_nil h.1
  refine congrArg (d :: ·) (List.rdropWhile_eq_self_iff.mpr fun hne hlast => ?_)
  have hzero : (d :: ds).getLast? = some '0' := by
    rw [List.getLast?_cons, List.getLast?_eq_some_getLast hne]
    exact congrArg some (beq_iff_eq.mp hlast)
  exact hne (List.cons.inj (h.2 hzero)).2

theorem trimZeros_append_zeros {ds : List Char} (h : ds ≠ []) (k : Nat) :
    trimZeros (ds ++ List.replicate k '0') = trimZeros ds := by
  obtain ⟨d, ds, rfl⟩ := List.exists_cons_of_ne_nil h
  refine congrArg (d :: ·) ?_
  show (ds ++ List.replicate k '0').rdropWhile (· == '0') = ds.rdropWhile (· == '0')
  induction k with
  | zero => rw [List.replicate_zero, List.append_nil]
  | succ k ih => rw [List.replicate_succ', ← List.append_assoc, List.rdropWhile_concat_pos _ _ _ rfl, ih]

end Units

namespace DecimalText
open Numeral

/-! ### One text for each amount -/

/-- A decimal number as it is written in one way only, with at most so many places after the point: digits on both
    sides of a point, no zero before other digits in front of it, none after other digits behind it. Without
    places, one zero stands behind the point. -/
structure Canonical (places : Nat) (cs : List Char) : Prop where
  wellFormed : WellFormed cs
  point : '.' ∈ cs
  whole_ne : whole cs ≠ []
  whole_zero : (whole cs).head? = some '0' → whole cs = ['0']
  trimmed : Units.Trimmed (decimals cs)
  length_le : (decimals cs).length ≤ max 1 places

variable {places places' : Nat} {cs cs' : List Char}

theorem eq_append_of_mem (h : '.' ∈ cs) : cs = whole cs ++ '.' :: decimals cs := by
  rcases split cs with ⟨hcs, -⟩ | hcs
  · exact absurd (hcs ▸ h) (not_mem_whole cs)
  · exact hcs

/-- Amounts that are equal have equal whole parts, and what is left of them is equal in the smallest place of both. -/
theorem sides_of_amount_eq (hcs : ∀ c ∈ decimals cs, c.isDigit = true) (hcs' : ∀ c ∈ decimals cs', c.isDigit = true)
    (h : amount cs = amount cs') :
    value (whole cs) = value (whole cs') ∧
      value (decimals cs) * 10 ^ (decimals cs').length = value (decimals cs') * 10 ^ (decimals cs).length := by
  unfold amount at h
  rw [div_eq_div_iff (pow_ne_zero _ (by decide)) (pow_ne_zero _ (by decide)), value_append, value_append] at h
  generalize value (whole cs) = n, value (whole cs') = n' at h ⊢
  have hlt := value_lt_pow hcs
  have hlt' := value_lt_pow hcs'
  generalize value (decimals cs) = r, value (decimals cs') = r' at h hlt hlt' ⊢
  generalize (decimals cs).length = k, (decimals cs').length = k' at h hlt hlt' ⊢
  have heq : 10 ^ k * 10 ^ k' * n + r * 10 ^ k' = 10 ^ k * 10 ^ k' * n' + r' * 10 ^ k := by
    calc 10 ^ k * 10 ^ k' * n + r * 10 ^ k' = (n * 10 ^ k + r) * 10 ^ k' := by ring
      _ = (n' * 10 ^ k' + r') * 10 ^ k := by exact_mod_cast h
      _ = 10 ^ k * 10 ^ k' * n' + r' * 10 ^ k := by ring
  have hrest : r * 10 ^ k' < 10 ^ k * 10 ^ k' := Nat.mul_lt_mul_of_pos_right hlt (Nat.pow_pos (by decide))
  have hrest' : r' * 10 ^ k < 10 ^ k * 10 ^ k' := by
    rw [Nat.mul_comm (10 ^ k)]
    exact Nat.mul_lt_mul_of_pos_right hlt' (Nat.pow_pos (by decide))
  have hpos : 0 < 10 ^ k * 10 ^ k' := Nat.mul_pos (Nat.pow_pos (by decide)) (Nat.pow_pos (by decide))
  have hwhole : n = n' := by
    have hdiv := congrArg (· / (10 ^ k * 10 ^ k')) heq
    simpa only [Nat.mul_add_div hpos, Nat.div_eq_of_lt hrest, Nat.div_eq_of_lt hrest', Nat.add_zero] using hdiv
  exact ⟨hwhole, Nat.add_left_cancel (hwhole ▸ heq)⟩

/-- An amount is written in one way only. -/
theorem Canonical.eq_of_amount_eq (h : Canonical places cs) (h' : Canonical places' cs') (hamount : amount cs = amount cs') :
    cs = cs' := by
  obtain ⟨hdigits, -⟩ := wellFormed_iff.mp h.wellFormed
  obtain ⟨hdigits', -⟩ := wellFormed_iff.mp h'.wellFormed
  rw [List.forall_mem_append] at hdigits hdigits'
  obtain ⟨hwhole, hrest⟩ := sides_of_amount_eq hdigits.2 hdigits'.2 hamount
  have hwhole : whole cs = whole cs' := by
    rw [← decimal_value hdigits.1 h.whole_ne h.whole_zero, hwhole, decimal_value hdigits'.1 h'.whole_ne h'.whole_zero]
  -- Zeros at the end bring the decimals to one length, and go again with trimming.
  have hpadded : decimals cs ++ List.replicate (decimals cs').length '0' =
      decimals cs' ++ List.replicate (decimals cs).length '0' := by
    have hzeros (k : Nat) : ∀ c ∈ List.replicate k '0', c.isDigit = true := fun c hc => by
      rw [List.eq_of_mem_replicate hc]
      rfl
    refine eq_of_value_eq (List.forall_mem_append.mpr ⟨hdigits.2, hzeros _⟩)
      (List.forall_mem_append.mpr ⟨hdigits'.2, hzeros _⟩) ?_ ?_
    · simp only [List.length_append, List.length_replicate, Nat.add_comm]
    · simpa only [value_append, value_replicate, List.length_replicate, Nat.add_zero] using hrest
  have hdecimals : decimals cs = decimals cs' := by
    have htrimmed := congrArg Units.trimZeros hpadded
    rwa [Units.trimZeros_append_zeros h.trimmed.1, Units.trimZeros_append_zeros h'.trimmed.1,
      Units.trimZeros_of_trimmed h.trimmed, Units.trimZeros_of_trimmed h'.trimmed] at htrimmed
  rw [eq_append_of_mem h.point, eq_append_of_mem h'.point, hwhole, hdecimals]

end DecimalText

/-! ### Names of units -/

namespace Units

/-- Whether a character is a small letter or its capital. The Kelvin sign is another capital `K`. -/
def IsCaseOf (letter c : Char) : Prop := c = letter ∨ c = letter.toUpper ∨ (letter = 'k' ∧ c = '\u212a')

/-- Whether a text is a name of the unit of exponent `e`, in letters of either case. -/
def Names (text : String) (e : Nat) : Prop :=
  ∃ name, (name, e) ∈ exponents ∧ List.Forall₂ IsCaseOf name.toList text.toList

theorem eq_lowerCase_iff {letter c : Char} (h : letter.isLower = true) : letter = lowerCase c ↔ IsCaseOf letter c := by
  unfold lowerCase IsCaseOf
  rw [← or_assoc, ← Text.toLower_eq_iff h]
  split
  · rename_i hc
    subst hc
    have hne : ('\u212a' : Char).toLower ≠ letter := by
      rintro rfl
      revert h
      decide
    simp only [hne, false_or, and_true]
  · rename_i hc
    simp [hc, eq_comm]

theorem isLower_of_mem_exponents : ∀ p ∈ exponents, ∀ c ∈ p.1.toList, c.isLower = true := by
  have hall : (exponents.all fun p => p.1.toList.all Char.isLower) = true := by decide
  simpa only [List.all_eq_true] using hall

theorem lookup_of_mem_exponents : ∀ p ∈ exponents, exponents.lookup p.1 = some p.2 := by decide

/-- The unit that is looked up is the one that the text names. -/
theorem exponent?_eq_some_iff {text : String} {e : Nat} : exponent? text = some e ↔ Names text e := by
  have hspelled {name : String} (hmem : (name, e) ∈ exponents) :
      String.ofList (text.toList.map lowerCase) = name ↔ List.Forall₂ IsCaseOf name.toList text.toList := by
    have hlower := isLower_of_mem_exponents _ hmem
    rw [← String.toList_inj, String.toList_ofList, eq_comm, ← List.forall₂_eq_eq_eq, List.forall₂_map_right_iff]
    constructor
    · intro h
      refine ((List.forall₂_and_left _ _).mpr ⟨hlower, h⟩).imp ?_
      rintro letter c ⟨hletter, heq⟩
      exact (eq_lowerCase_iff hletter).mp heq
    · intro h
      refine ((List.forall₂_and_left _ _).mpr ⟨hlower, h⟩).imp ?_
      rintro letter c ⟨hletter, hcase⟩
      exact (eq_lowerCase_iff hletter).mpr hcase
  unfold exponent? Names
  constructor
  · intro h
    obtain ⟨before, after, heq, -⟩ := List.lookup_eq_some_iff.mp h
    have hmem : (String.ofList (text.toList.map lowerCase), e) ∈ exponents := by
      rw [heq]
      exact List.mem_append_right _ List.mem_cons_self
    exact ⟨_, hmem, (hspelled hmem).mp rfl⟩
  · rintro ⟨name, hmem, hcase⟩
    rw [(hspelled hmem).mpr hcase]
    exact lookup_of_mem_exponents _ hmem

end Units

/-! ### Amounts in a unit -/

namespace Quantity
open Numeral DecimalText

theorem canonical_inUnit (e : Nat) (q : Quantity) : Canonical e (q.inUnit e).toList := by
  have hlt : q.toNat % 10 ^ e < 10 ^ e := Nat.mod_lt _ (Nat.pow_pos (by decide))
  constructor
  case wellFormed => exact q.wellFormed_inUnit e
  case point =>
    rw [toList_inUnit]
    exact List.mem_append_right _ List.mem_cons_self
  case whole_ne =>
    rw [whole_inUnit]
    exact decimal_ne_nil _
  case whole_zero =>
    rw [whole_inUnit]
    intro hzero
    rw [head?_decimal hzero]
    rfl
  case trimmed =>
    rw [decimals_inUnit]
    exact Units.trimmed_trimZeros (padded_ne_nil _ _)
  case length_le =>
    rw [decimals_inUnit]
    refine Nat.le_trans (Units.length_trimZeros_le _) ?_
    rcases Nat.eq_zero_or_pos e with rfl | he
    · show (padded 0 (q.toNat % 1)).length ≤ _
      rw [Nat.mod_one]
      exact Nat.le_refl 1
    · exact (length_padded he hlt).trans_le (Nat.le_max_right 1 e)

theorem inUnitNamed_of_names {name : String} {e : Nat} (h : Units.Names name e) (q : Quantity) :
    q.inUnitNamed name = .ok (q.inUnit e) := by
  unfold inUnitNamed Units.exponent
  rw [Units.exponent?_eq_some_iff.mpr h]
  rfl

theorem inUnitNamed_of_unknown {name : String} (h : ∀ e, ¬ Units.Names name e) (q : Quantity) :
    q.inUnitNamed name = .error (.unknown name) := by
  have hnone : Units.exponent? name = none :=
    Option.eq_none_iff_forall_ne_some.mpr fun e he => h e (Units.exponent?_eq_some_iff.mp he)
  unfold inUnitNamed Units.exponent
  rw [hnone]
  rfl

/-- A unit that is named in letters of either case has exactly one canonical text for each amount, which is given and
    tells it from all other amounts. Any other name is a fault, whatever the amount. -/
theorem inUnitNamed_canonical (name : String) :
    (∀ e, Units.Names name e →
      (∀ q : Quantity, ∃ text, q.inUnitNamed name = .ok text ∧
        Canonical e text.toList ∧ amount text.toList = q.toNat / 10 ^ e ∧
        ∀ other : String, Canonical e other.toList → amount other.toList = q.toNat / 10 ^ e → other = text) ∧
      ∀ q q' : Quantity, q.inUnitNamed name = q'.inUnitNamed name → q = q') ∧
    ((∀ e, ¬ Units.Names name e) → ∀ q : Quantity, q.inUnitNamed name = .error (.unknown name)) := by
  refine ⟨fun e he => ⟨fun q => ?_, fun q q' h => ?_⟩, inUnitNamed_of_unknown⟩
  · refine ⟨q.inUnit e, inUnitNamed_of_names he q, q.canonical_inUnit e, q.amount_inUnit e, fun other hother hamount => ?_⟩
    exact String.toList_inj.mp (hother.eq_of_amount_eq (q.canonical_inUnit e) (hamount.trans (q.amount_inUnit e).symm))
  · rw [inUnitNamed_of_names he, inUnitNamed_of_names he] at h
    exact inUnit_injective (Except.ok.inj h)

/-- A unit whose name holds a Kelvin sign, and one that is none. -/
theorem inUnitNamed_canonical_kelvin :
    Units.Names "\u212aWei" 3 ∧ (∀ e, ¬ Units.Names "furlongs" e) ∧
    (⟨1050, by decide⟩ : Quantity).inUnitNamed "\u212aWei" = .ok "1.05" ∧ Canonical 3 "1.05".toList ∧
    (⟨1050, by decide⟩ : Quantity).inUnitNamed "furlongs" = .error (.unknown "furlongs") := by
  have hnames : Units.Names "\u212aWei" 3 := Units.exponent?_eq_some_iff.mp (by decide)
  have hunknown : ∀ e, ¬ Units.Names "furlongs" e := by
    intro e he
    have hnone : Units.exponent? "furlongs" = none := by decide
    cases hnone.symm.trans (Units.exponent?_eq_some_iff.mpr he)
  obtain ⟨text, htext, hcanonical, -, -⟩ := ((inUnitNamed_canonical "\u212aWei").1 3 hnames).1 ⟨1050, by decide⟩
  have heq : (⟨1050, by decide⟩ : Quantity).inUnitNamed "\u212aWei" = .ok "1.05" := by decide +kernel
  cases heq.symm.trans htext
  exact ⟨hnames, hunknown, heq, hcanonical, (inUnitNamed_canonical "furlongs").2 hunknown _⟩

end Quantity
end SplitterLaunch
