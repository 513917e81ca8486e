import Mathlib.Algebra.Group.Nat.Defs
import SplitterLaunch.Quantity

/-! Rows of digits. The number that a row denotes does not change with zeros in front of it, and rows that
    are written one after the other denote what place value says. A text is read below a bound exactly when it
    is a row of digits and denotes a number below it (`scan_eq_ok_iff`), and a machine integer from its numerals
    (`readUInt64_eq_ok_iff`). -/

namespace SplitterLaunch
namespace Numeral

/-! ### Values -/

theorem value_append (xs ys : List Char) : value (xs ++ ys) = value xs * 10 ^ ys.length + value ys := by
  unfold value
  rw [Nat.ofDigitChars_append, Nat.ofDigitChars_eq_ofDigitChars_zero, Nat.mul_comm]

theorem value_replicate (n : Nat) : value (List.replicate n '0') = 0 := by
  unfold value
  rw [Nat.ofDigitChars_replicate_zero, Nat.mul_zero]

theorem value_padded (width n : Nat) : value (padded width n) = n := by
  show value (List.replicate _ '0' ++ decimal n) = n
  rw [value_append, value_replicate, value_decimal, Nat.zero_mul, Nat.zero_add]

/-! ### Digits and lengths -/

theorem isDigit_of_mem_padded {width n : Nat} {c : Char} (h : c ∈ padded width n) : c.isDigit = true := by
  rcases List.mem_append.mp h with h | h
  · rw [List.eq_of_mem_replicate h]
    rfl
  · exact isDigit_of_mem_decimal h

theorem decimal_ne_nil (n : Nat) : decimal n ≠ [] := Nat.toDigits_ne_nil

theorem padded_ne_nil (width n : Nat) : padded width n ≠ [] :=
  List.append_ne_nil_of_right_ne_nil _ (decimal_ne_nil n)

theorem length_decimal_le_iff {n k : Nat} (h : 0 < k) : (decimal n).length ≤ k ↔ n < 10 ^ k :=
  Nat.length_toDigits_le_iff (by decide) h

theorem length_padded {width n : Nat} (hw : 0 < width) (h : n < 10 ^ width) : (padded width n).length = width := by
  have hle : (decimal n).length ≤ width := (length_decimal_le_iff hw).mpr h
  show (List.replicate _ '0' ++ decimal n).length = width
  rw [List.length_append, List.length_replicate]
  omega

theorem digitValue_lt {c : Char} (h : c.isDigit = true) : digitValue c < 10 := by
  simp only [Char.isDigit, Bool.and_eq_true, decide_eq_true_eq, UInt32.le_iff_toNat_le] at h
  have hle : c.toNat ≤ 57 := h.2
  show c.toNat - 48 < 10
  omega

theorem value_cons (c : Char) (cs : List Char) : value (c :: cs) = digitValue c * 10 ^ cs.length + value cs := by
  have hdigit : value [c] = digitValue c := by
    unfold value
    rw [Nat.ofDigitChars_cons, Nat.ofDigitChars_nil, Nat.mul_zero, Nat.zero_add]
    rfl
  rw [← List.singleton_append, value_append, hdigit]

theorem value_lt_pow {ds : List Char} (h : ∀ c ∈ ds, c.isDigit = true) : value ds < 10 ^ ds.length := by
  induction ds with
  | nil => exact Nat.one_pos
  | cons c cs ih =>
    have hc := digitValue_lt (h c List.mem_cons_self)
    have hcs := ih fun x hx => h x (List.mem_cons_of_mem _ hx)
    rw [value_cons, List.length_cons, Nat.pow_succ]
    calc digitValue c * 10 ^ cs.length + value cs < digitValue c * 10 ^ cs.length + 10 ^ cs.length :=
          Nat.add_lt_add_left hcs _
      _ = (digitValue c + 1) * 10 ^ cs.length := (Nat.succ_mul _ _).symm
      _ ≤ 10 * 10 ^ cs.length := Nat.mul_le_mul_right _ hc
      _ = 10 ^ cs.length * 10 := Nat.mul_comm _ _

/-- Only zero has a zero in front. -/
theorem head?_decimal {n : Nat} (h : (decimal n).head? = some '0') : n = 0 := by
  obtain ⟨cs, hcs⟩ : ∃ cs, decimal n = '0' :: cs := by
    cases hd : decimal n with
    | nil => exact absurd hd (decimal_ne_nil n)
    | cons c cs =>
      rw [hd] at h
      cases h
      exact ⟨cs, rfl⟩
  have hvalue : n = value cs := by
    conv => lhs; rw [← value_decimal n, hcs, value_cons]
    show 0 * 10 ^ cs.length + value cs = value cs
    rw [Nat.zero_mul, Nat.zero_add]
  have hdigits : ∀ c ∈ cs, c.isDigit = true := fun c hc =>
    isDigit_of_mem_decimal (n := n) (hcs ▸ List.mem_cons_of_mem _ hc)
  have hlt : n < 10 ^ cs.length := by
    rw [hvalue]
    exact value_lt_pow hdigits
  rcases Nat.eq_zero_or_pos cs.length with hzero | hpos
  · rw [hzero] at hlt
    omega
  · have hlength := (length_decimal_le_iff hpos).mpr hlt
    rw [hcs, List.length_cons] at hlength
    omega

/-! ### Rows that denote one number -/

theorem digitValue_injective {c d : Char} (hc : c.isDigit = true) (hd : d.isDigit = true)
    (h : digitValue c = digitValue d) : c = d := by
  simp only [Char.isDigit, Bool.and_eq_true, decide_eq_true_eq, UInt32.le_iff_toNat_le] at hc hd
  have hc' : 48 ≤ c.toNat := hc.1
  have hd' : 48 ≤ d.toNat := hd.1
  change c.toNat - 48 = d.toNat - 48 at h
  exact Char.toNat_inj.mp (by omega)

/-- Rows of digits of one length are told apart by what they denote. -/
theorem eq_of_value_eq {xs ys : List Char} (hxs : ∀ c ∈ xs, c.isDigit = true) (hys : ∀ c ∈ ys, c.isDigit = true)
    (hlength : xs.length = ys.length) (h : value xs = value ys) : xs = ys := by
  induction xs generalizing ys with
  | nil => exact (List.length_eq_zero_iff.mp hlength.symm).symm
  | cons c xs ih =>
    cases ys with
    | nil => cases hlength
    | cons d ys =>
      obtain ⟨hc, hxs⟩ := List.forall_mem_cons.mp hxs
      obtain ⟨hd, hys⟩ := List.forall_mem_cons.mp hys
      have hlength : xs.length = ys.length := Nat.succ.inj hlength
      have hx := value_lt_pow hxs
      have hy := value_lt_pow hys
      rw [value_cons, value_cons, hlength] at h
      rw [hlength] at hx
      -- The rest is less than one unit of the place of the first digit.
      have hquotient (n : Nat) {r : Nat} (hr : r < 10 ^ ys.length) : (n * 10 ^ ys.length + r) / 10 ^ ys.length = n := by
        rw [Nat.mul_comm, Nat.mul_add_div (Nat.pow_pos (by decide)), Nat.div_eq_of_lt hr, Nat.add_zero]
      have hfirst : digitValue c = digitValue d := by
        rw [← hquotient (digitValue c) hx, h, hquotient _ hy]
      rw [hfirst] at h
      rw [digitValue_injective hc hd hfirst, ih hxs hys hlength (Nat.add_left_cancel h)]

/-- A numeral without superfluous zeros in front is the one that is written for its number. -/
theorem decimal_value {ds : List Char} (hdigits : ∀ c ∈ ds, c.isDigit = true) (hne : ds ≠ [])
    (hzero : ds.head? = some '0' → ds = ['0']) : decimal (value ds) = ds := by
  obtain ⟨c, cs, rfl⟩ := List.exists_cons_of_ne_nil hne
  by_cases hc : c = '0'
  · rw [hzero (congrArg some hc)]
    rfl
  · have hfirst : 0 < digitValue c := by
      refine Nat.pos_of_ne_zero fun h => hc (digitValue_injective (hdigits c List.mem_cons_self) rfl h)
    have hupper : (decimal (value (c :: cs))).length ≤ (c :: cs).length :=
      (length_decimal_le_iff (Nat.succ_pos _)).mpr (value_lt_pow hdigits)
    have hlower : ¬(decimal (value (c :: cs))).length ≤ cs.length := by
      intro hle
      have hpos : 0 < cs.length := Nat.lt_of_lt_of_le (List.length_pos_iff.mpr (decimal_ne_nil _)) hle
      have hlt := (length_decimal_le_iff hpos).mp hle
      have hge := Nat.le_mul_of_pos_left (10 ^ cs.length) hfirst
      rw [value_cons] at hlt
      omega
    refine eq_of_value_eq (fun d hd => isDigit_of_mem_decimal hd) hdigits ?_ (value_decimal _)
    rw [List.length_cons] at hupper ⊢
    omega

/-! ### Where a row of digits ends -/

/-- A rest that does not go on with a digit. -/
def EndsDigits (rest : List Char) : Prop := ∀ c ∈ rest.head?, c.isDigit = false

theorem takeWhile_of_endsDigits {rest : List Char} (h : EndsDigits rest) : rest.takeWhile Char.isDigit = [] := by
  cases rest with
  | nil => rfl
  | cons c rest => exact List.takeWhile_cons_of_neg (by rw [h c rfl]; decide)

theorem dropWhile_of_endsDigits {rest : List Char} (h : EndsDigits rest) : rest.dropWhile Char.isDigit = rest := by
  cases rest with
  | nil => rfl
  | cons c rest => exact List.dropWhile_cons_of_neg (by rw [h c rfl]; decide)

theorem takeWhile_isDigit_append {ds rest : List Char} (hds : ∀ c ∈ ds, c.isDigit = true) (h : EndsDigits rest) :
    (ds ++ rest).takeWhile Char.isDigit = ds := by
  rw [List.takeWhile_append_of_pos hds, takeWhile_of_endsDigits h, List.append_nil]

theorem dropWhile_isDigit_append {ds rest : List Char} (hds : ∀ c ∈ ds, c.isDigit = true) (h : EndsDigits rest) :
    (ds ++ rest).dropWhile Char.isDigit = rest := by
  rw [List.dropWhile_append_of_pos hds, dropWhile_of_endsDigits h]

/-! ### Reading below a bound -/

/-- Going on after `acc` reads exactly the digits with which the number stays below the bound. -/
theorem scanFrom_eq_ok_iff {bound acc n : Nat} {cs : List Char} (hacc : acc < bound) :
    scanFrom bound acc cs = .ok n ↔
      (∀ c ∈ cs, c.isDigit = true) ∧ acc * 10 ^ cs.length + value cs = n ∧ n < bound := by
  induction cs generalizing acc with
  | nil =>
    have hnil : acc * 10 ^ ([] : List Char).length + value [] = acc := Nat.mul_one acc
    rw [hnil, scanFrom, Except.ok.injEq]
    exact ⟨fun h => ⟨fun _ hc => (List.not_mem_nil hc).elim, h, h ▸ hacc⟩, fun h => h.2.1⟩
  | cons c cs ih =>
    have hvalue : acc * 10 ^ (c :: cs).length + value (c :: cs) =
        (acc * 10 + digitValue c) * 10 ^ cs.length + value cs := by
      rw [value_cons, List.length_cons, Nat.pow_succ', ← Nat.add_assoc, ← Nat.mul_assoc, ← Nat.add_mul]
    rw [hvalue, List.forall_mem_cons, scanFrom]
    by_cases hc : c.isDigit = true
    · rw [if_pos hc]
      by_cases hlt : acc * 10 + digitValue c < bound
      · rw [if_pos hlt, ih hlt, and_assoc]
        exact ⟨fun h => ⟨hc, h⟩, fun h => h.2⟩
      · rw [if_neg hlt]
        constructor
        · intro h
          cases h
        -- Further digits make the number no smaller.
        · rintro ⟨-, hn, hbound⟩
          have := Nat.le_mul_of_pos_right (acc * 10 + digitValue c) (Nat.pow_pos (n := cs.length) (by decide : 0 < 10))
          omega
    · rw [if_neg hc]
      refine ⟨fun h => ?_, fun h => absurd h.1.1 hc⟩
      cases h

theorem scan_eq_ok_iff {bound n : Nat} {cs : List Char} (hbound : 0 < bound) :
    scan bound cs = .ok n ↔ (∀ c ∈ cs, c.isDigit = true) ∧ value cs = n ∧ n < bound := by
  unfold scan
  rw [scanFrom_eq_ok_iff hbound, Nat.zero_mul, Nat.zero_add]

/-! ### Machine integers -/

/-- Whether a text is a numeral of a number: digits, after at most one plus sign. -/
def Denotes (cs : List Char) (n : Nat) : Prop :=
  ∃ digits, (cs = digits ∨ cs = '+' :: digits) ∧ digits ≠ [] ∧ (∀ c ∈ digits, c.isDigit = true) ∧ value digits = n

theorem denotes_plus_iff {ds : List Char} {n : Nat} :
    Denotes ('+' :: ds) n ↔ ds ≠ [] ∧ (∀ c ∈ ds, c.isDigit = true) ∧ value ds = n := by
  constructor
  · rintro ⟨digits, rfl | hplus, hne, hdigits, hvalue⟩
    · exact absurd (hdigits '+' List.mem_cons_self) (by decide)
    · cases hplus
      exact ⟨hne, hdigits, hvalue⟩
  · exact fun h => ⟨ds, .inr rfl, h⟩

theorem denotes_iff_of_head?_ne {cs : List Char} {n : Nat} (h : cs.head? ≠ some '+') :
    Denotes cs n ↔ cs ≠ [] ∧ (∀ c ∈ cs, c.isDigit = true) ∧ value cs = n := by
  constructor
  · rintro ⟨digits, rfl | rfl, hdenotes⟩
    · exact hdenotes
    · exact absurd rfl h
  · exact fun hdenotes => ⟨cs, .inl rfl, hdenotes⟩

theorem readBelow_eq_ok_iff {bound n : Nat} {cs : List Char} (hbound : 0 < bound) :
    readBelow bound cs = .ok n ↔ Denotes cs n ∧ n < bound := by
  unfold readBelow
  split
  case h_1 => exact ⟨nofun, fun h => absurd rfl ((denotes_iff_of_head?_ne (by simp)).mp h.1).1⟩
  case h_2 => exact ⟨nofun, fun h => absurd rfl (denotes_plus_iff.mp h.1).1⟩
  case h_3 ds hne => rw [denotes_plus_iff, scan_eq_ok_iff hbound, and_iff_right hne, and_assoc]
  case h_4 hnil _ hplus =>
    have hhead : cs.head? ≠ some '+' := by
      intro h
      obtain ⟨rest, rfl⟩ := List.head?_eq_some_iff.mp h
      exact hplus rest rfl
    rw [denotes_iff_of_head?_ne hhead, scan_eq_ok_iff hbound, and_iff_right hnil, and_assoc]

theorem readUInt64_eq_ok_iff {cs : List Char} {n : UInt64} : readUInt64 cs = .ok n ↔ Denotes cs n.toNat := by
  have hread : readUInt64 cs = .ok n ↔ readBelow UInt64.size cs = .ok n.toNat := by
    unfold readUInt64
    cases hm : readBelow UInt64.size cs with
    | error fault => exact ⟨nofun, nofun⟩
    | ok m =>
      have hlt : m < UInt64.size := ((readBelow_eq_ok_iff (by decide)).mp hm).2
      simp only [Except.map, Except.ok.injEq]
      constructor
      · rintro rfl
        exact (UInt64.toNat_ofNat_of_lt hlt).symm
      · rintro rfl
        exact UInt64.ofNat_toNat
  rw [hread, readBelow_eq_ok_iff (by decide), and_iff_left n.toNat_lt]

end Numeral

/-- A quantity is read from the digits that denote it. -/
theorem Quantity.read_eq_ok_iff {cs : List Char} {q : Quantity} :
    Quantity.read cs = .ok q ↔ (∀ c ∈ cs, c.isDigit = true) ∧ Numeral.value cs = q.toNat := by
  have hscan : Quantity.read cs = .ok q ↔ Numeral.scan Quantity.bound cs = .ok q.toNat := by
    unfold Quantity.read
    cases hn : Numeral.scan Quantity.bound cs with
    | error fault => exact ⟨nofun, nofun⟩
    | ok n =>
      have hlt : n < Quantity.bound := Numeral.scan_lt (by decide) hn
      simp only [dif_pos hlt, Except.ok.injEq]
      exact ⟨fun h => h ▸ rfl, fun h => Quantity.ext h⟩
  rw [hscan, Numeral.scan_eq_ok_iff (by decide)]
  exact ⟨fun h => ⟨h.1, h.2.1⟩, fun h => ⟨h.1, h.2, q.toNat_lt⟩⟩

end SplitterLaunch
