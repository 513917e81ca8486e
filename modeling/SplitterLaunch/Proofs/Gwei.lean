import Mathlib.Algebra.Order.Floor.Semifield
import Mathlib.Data.Rat.Floor
import SplitterLaunch.Proofs.DecimalText
import SplitterLaunch.Quantity.Gwei

/-! Reading a fee in gwei. A number is looked at up to its ninth decimal, and what it comes to in wei is then
    a whole number without any rounding (`wei_eq`). `read_eq_ok_iff` says exactly which texts are read, and as
    what: all decimal numbers that stay in the range, but also texts whose sign shows up only when the
    underscores are dropped, texts without a digit, and texts with anything at all after the ninth decimal.
    `read_eq_crash_iff` says which texts are neither read nor refused. -/

namespace SplitterLaunch
namespace Gwei
open Numeral DecimalText

/-! ### What counts of a text -/

/-- The characters of a text that count. -/
def counted (s : String) : List Char := (Text.trim s.toList).filter (· ≠ '_')

/-- The decimals of a number that count. -/
def kept (cs : List Char) : List Char := (decimals cs).take exponent

/-- A number is legible if it is digits as far as it is looked at. -/
def Legible (cs : List Char) : Prop := ∀ c ∈ whole cs ++ kept cs, c.isDigit = true

instance (cs : List Char) : Decidable (Legible cs) := List.decidableBAll _ _

/-- The digits that are looked at, as a number. -/
def unscaled (cs : List Char) : Nat := value (whole cs ++ kept cs)

/-- The power of ten that the digits lack. -/
def missing (cs : List Char) : Nat := exponent - (kept cs).length

/-- The amount in wei that a number of gwei comes to, rounded down. -/
def wei (cs : List Char) : Nat := ⌊amount cs * 10 ^ exponent⌋₊

/-- The amount in wei is made of the digits that are looked at. -/
theorem wei_eq {cs : List Char} (h : ∀ c ∈ whole cs ++ decimals cs, c.isDigit = true) :
    wei cs = unscaled cs * 10 ^ missing cs := by
  have hlength : (kept cs).length = min exponent (decimals cs).length := List.length_take
  have hwei : wei cs = value (whole cs ++ decimals cs) * 10 ^ exponent / 10 ^ (decimals cs).length := by
    rw [← Nat.floor_div_eq_div (K := Rat)]
    unfold wei amount
    push_cast
    rw [div_mul_eq_mul_div]
  rw [hwei]
  rcases Nat.le_total (decimals cs).length exponent with hle | hle
  -- All decimals count, and nothing is cut.
  · have hkept : kept cs = decimals cs := List.take_of_length_le hle
    have hpow : 10 ^ exponent = 10 ^ missing cs * 10 ^ (decimals cs).length := by
      rw [← Nat.pow_add, missing, hkept, Nat.sub_add_cancel hle]
    rw [unscaled, hkept, hpow, ← Nat.mul_assoc, Nat.mul_div_cancel _ (Nat.pow_pos (by decide))]
  -- The decimals that are cut are less than one in the last place.
  · have hcut : whole cs ++ decimals cs = (whole cs ++ kept cs) ++ (decimals cs).drop exponent := by
      rw [List.append_assoc, kept, List.take_append_drop]
    have hrest : value ((decimals cs).drop exponent) < 10 ^ ((decimals cs).drop exponent).length :=
      value_lt_pow fun c hc => h c (List.mem_append_right _ (List.mem_of_mem_drop hc))
    have hpow : 10 ^ (decimals cs).length = 10 ^ ((decimals cs).drop exponent).length * 10 ^ exponent := by
      rw [← Nat.pow_add, List.length_drop, Nat.sub_add_cancel hle]
    rw [missing, hlength, Nat.min_eq_left hle, Nat.sub_self, Nat.pow_zero, Nat.mul_one, hcut, value_append, hpow,
      Nat.mul_div_mul_right _ _ (Nat.pow_pos (by decide)), Nat.add_comm,
      Nat.add_mul_div_right _ _ (Nat.pow_pos (by decide)), Nat.div_eq_of_lt hrest, Nat.zero_add, unscaled]

/-! ### Reading the characters that count -/

theorem utf8Size_of_isDigit {c : Char} (h : c.isDigit = true) : c.utf8Size = 1 := by
  rw [Char.utf8Size_eq_one_iff]
  simp only [Char.isDigit, Bool.and_eq_true, decide_eq_true_eq] at h
  exact UInt32.le_trans h.2 (by decide)

theorem ofText?_eq (cs : List Char) : Scaled.ofText? cs = (Text.takeBytes? exponent (decimals cs)).map
    fun taken => ⟨whole cs ++ taken, exponent - Text.byteLength (decimals cs)⟩ := rfl

/-- A legible number is split by its characters. -/
theorem ofText?_of_legible {cs : List Char} (h : Legible cs) :
    Scaled.ofText? cs = some ⟨whole cs ++ kept cs, missing cs⟩ := by
  have hascii : ∀ c ∈ kept cs, c.utf8Size = 1 := fun c hc => utf8Size_of_isDigit (h c (List.mem_append_right _ hc))
  have htaken : Text.takeBytes? exponent (decimals cs) = some (kept cs) := (Text.takeBytes?_eq_some_iff hascii).mpr rfl
  have hmissing : exponent - Text.byteLength (decimals cs) = missing cs := by
    unfold missing
    rcases Nat.le_total (decimals cs).length exponent with hle | hle
    · have hkept : kept cs = decimals cs := List.take_of_length_le hle
      rw [hkept, Text.byteLength_of_utf8Size (hkept ▸ hascii)]
    · have hlength : (kept cs).length = exponent := List.length_take_of_le hle
      have := Text.length_le_byteLength (decimals cs)
      omega
  rw [ofText?_eq, htaken, Option.map_some, hmissing]

/-- If what is left of a number when it is split is digits, it was legible. -/
theorem legible_of_ofText? {cs : List Char} {number : Scaled} (h : Scaled.ofText? cs = some number)
    (hdigits : ∀ c ∈ number.digits, c.isDigit = true) : Legible cs := by
  rw [ofText?_eq] at h
  obtain ⟨taken, htaken, rfl⟩ := Option.map_eq_some_iff.mp h
  have hascii : ∀ c ∈ taken, c.utf8Size = 1 := fun c hc =>
    utf8Size_of_isDigit (hdigits c (List.mem_append_right _ hc))
  rw [Text.takeBytes?_eq_some_iff hascii] at htaken
  subst htaken
  exact hdigits

theorem readUnsigned_eq_ok_iff {missing : Nat} {digits : List Char} {w : Quantity} :
    readUnsigned missing digits = .ok w ↔
      (∀ c ∈ digits, c.isDigit = true) ∧ w.toNat = value digits * 10 ^ missing := by
  have hscan {n : Nat} : scan Quantity.bound digits = .ok n ↔ _ := scan_eq_ok_iff (by decide)
  have hpow : 0 < 10 ^ missing := Nat.pow_pos (by decide)
  unfold readUnsigned
  cases hread : scan Quantity.bound digits with
  | error fault =>
    constructor
    · cases fault <;> exact nofun
    -- The digits alone are no larger than the amount, so they are read if the amount is a quantity.
    rintro ⟨hdigits, hw⟩
    have hle : value digits ≤ w.toNat := hw ▸ Nat.le_mul_of_pos_right _ hpow
    rw [hscan.mpr ⟨hdigits, rfl, Nat.lt_of_le_of_lt hle w.toNat_lt⟩] at hread
    cases hread
  | ok n =>
    obtain ⟨hdigits, rfl, -⟩ := hscan.mp hread
    dsimp only
    rw [Nat.pow_eq, and_iff_right hdigits, ← Quantity.ofNat?_eq_some_iff]
    cases Quantity.ofNat? (value digits * 10 ^ missing) with
    | none => constructor <;> intro h <;> cases h
    | some amount => exact ⟨fun h => by cases h; rfl, fun h => by cases h; rfl⟩

theorem readNegative_eq_ok_iff {missing : Nat} {digits : List Char} {w : Quantity} :
    readNegative missing digits = .ok w ↔
      (digits = [] ∧ w = Quantity.zero) ∨
        (∀ c ∈ digits, c.isDigit = true) ∧ 0 < value digits ∧ value digits ≤ Quantity.bound / 2 ∧
          w = Quantity.wrap (-(value digits * 10 ^ missing : Nat)) := by
  have hscan {n : Nat} : scan Quantity.bound digits = .ok n ↔ _ := scan_eq_ok_iff (by decide)
  unfold readNegative
  by_cases hempty : digits = []
  · subst hempty
    rw [List.isEmpty_nil, if_pos rfl, Except.ok.injEq, eq_comm]
    refine ⟨fun h => .inl ⟨rfl, h⟩, ?_⟩
    rintro (⟨-, h⟩ | ⟨-, hpos, -⟩)
    · exact h
    · exact absurd hpos (Nat.lt_irrefl 0)
  · rw [if_neg (by rwa [List.isEmpty_iff]), or_iff_right fun h => hempty h.1]
    cases hread : scan Quantity.bound digits with
    | error fault =>
      constructor
      · cases fault <;> exact nofun
      rintro ⟨hdigits, -, hle, -⟩
      rw [hscan.mpr ⟨hdigits, rfl, Nat.lt_of_le_of_lt hle (by decide)⟩] at hread
      cases hread
    | ok n =>
      obtain ⟨hdigits, rfl, -⟩ := hscan.mp hread
      rw [and_iff_right hdigits, ← and_assoc, Nat.cast_mul]
      by_cases hrange : 0 < value digits ∧ value digits ≤ Quantity.bound / 2
      · simp only [if_pos hrange, Except.ok.injEq, and_iff_right hrange]
        exact eq_comm
      · simp only [hrange, if_false, false_and, reduceCtorEq]

/-- Where only digits are read, exactly the legible numbers are. -/
theorem ofText?_match_eq_ok_iff {cs : List Char} {w : Quantity} {next : Scaled → Outcome NumberFault Quantity}
    (hnext : ∀ number, next number = .ok w → ∀ c ∈ number.digits, c.isDigit = true) :
    (match Scaled.ofText? cs with | some number => next number | none => .crash) = .ok w ↔
      Legible cs ∧ next ⟨whole cs ++ kept cs, missing cs⟩ = .ok w := by
  constructor
  · intro h
    cases hnumber : Scaled.ofText? cs with
    | none => simp only [hnumber] at h; cases h
    | some number =>
      simp only [hnumber] at h
      have hlegible := legible_of_ofText? hnumber (hnext number h)
      rw [ofText?_of_legible hlegible] at hnumber
      cases hnumber
      exact ⟨hlegible, h⟩
  · rintro ⟨hlegible, h⟩
    simpa only [ofText?_of_legible hlegible] using h

theorem readNumber_signed_eq_ok_iff {rest : List Char} {w : Quantity} : readNumber ('-' :: rest) = .ok w ↔
    Legible rest ∧ readNegative (missing rest) (whole rest ++ kept rest) = .ok w := by
  refine (ofText?_match_eq_ok_iff fun number h => ?_).trans (and_congr_right' Outcome.ofExcept_eq_ok_iff)
  rcases readNegative_eq_ok_iff.mp (Outcome.ofExcept_eq_ok_iff.mp h) with ⟨hnil, -⟩ | ⟨hdigits, -⟩
  · rw [hnil]
    exact fun _ hc => (List.not_mem_nil hc).elim
  · exact hdigits

theorem readNumber_unsigned_eq_ok_iff {cs : List Char} {w : Quantity} (h : cs.head? ≠ some '-') :
    readNumber cs = .ok w ↔ Legible cs ∧ readUnsigned (missing cs) (whole cs ++ kept cs) = .ok w := by
  unfold readNumber
  split
  · exact absurd rfl h
  · exact ofText?_match_eq_ok_iff fun number hread => (readUnsigned_eq_ok_iff.mp hread).1

/-- The numbers that are read, and what they are read as. -/
inductive Accepts (cs : List Char) : Quantity → Prop
  | unsigned {w : Quantity} (digits : Legible cs) (amount : w.toNat = unscaled cs * 10 ^ missing cs) : Accepts cs w
  | bare {rest : List Char} (sign : cs = '-' :: rest) (nothing : whole rest ++ kept rest = []) :
      Accepts cs Quantity.zero
  | negated {rest : List Char} (sign : cs = '-' :: rest) (digits : Legible rest) (pos : 0 < unscaled rest)
      (le : unscaled rest ≤ Quantity.bound / 2) :
      Accepts cs (Quantity.wrap (-(unscaled rest * 10 ^ missing rest : Nat)))

theorem readNumber_eq_ok_iff {cs : List Char} {w : Quantity} : readNumber cs = .ok w ↔ Accepts cs w := by
  by_cases hsign : cs.head? = some '-'
  · obtain ⟨rest, rfl⟩ := List.head?_eq_some_iff.mp hsign
    rw [readNumber_signed_eq_ok_iff, readNegative_eq_ok_iff]
    constructor
    · rintro ⟨hlegible, ⟨hnil, rfl⟩ | ⟨-, hpos, hle, rfl⟩⟩
      · exact .bare rfl hnil
      · exact .negated rfl hlegible hpos hle
    · rintro (⟨hlegible, -⟩ | ⟨hrest, hnil⟩ | ⟨hrest, hlegible, hpos, hle⟩)
      · exact absurd (hlegible '-' List.mem_cons_self) (by decide)
      · cases hrest
        exact ⟨fun c hc => (List.not_mem_nil (hnil ▸ hc)).elim, .inl ⟨hnil, rfl⟩⟩
      · cases hrest
        exact ⟨hlegible, .inr ⟨hlegible, hpos, hle, rfl⟩⟩
  · rw [readNumber_unsigned_eq_ok_iff hsign, readUnsigned_eq_ok_iff]
    constructor
    · rintro ⟨hlegible, -, hw⟩
      exact .unsigned hlegible hw
    · rintro (⟨hlegible, hw⟩ | hrest | hrest)
      · exact ⟨hlegible, hlegible, hw⟩
      all_goals exact absurd (hrest ▸ rfl) hsign

/-- What is read, and as what: exactly the numbers that do not start with their sign. -/
theorem read_eq_ok_iff {s : String} {w : Quantity} :
    read s = .ok w ↔ (Text.trim s.toList).head? ≠ some '-' ∧ Accepts (counted s) w := by
  unfold read
  by_cases hsign : (Text.trim s.toList).head? = some '-'
  · simp only [hsign, if_true, ne_eq, not_true_eq_false, false_and, iff_false]
    exact nofun
  · simp only [hsign, if_false, ne_eq, not_false_eq_true, true_and]
    exact Outcome.mapReason_eq_ok_iff.trans readNumber_eq_ok_iff

/-! ### Crashes -/

/-- The ninth byte of decimals is inside a character. -/
def CutsCharacter (cs : List Char) : Prop := ∃ before c after, decimals cs = before ++ c :: after ∧
  Text.byteLength before < exponent ∧ exponent < Text.byteLength before + c.utf8Size

/-- A number without a sign whose digits are in the range, and whose amount is not. -/
structure Overflows (cs : List Char) : Prop where
  digits : Legible cs
  lt : unscaled cs < Quantity.bound
  le : Quantity.bound ≤ unscaled cs * 10 ^ missing cs

/-- A text that ends the reading of a fee without a report. -/
structure Breaks (s : String) : Prop where
  unsigned : (Text.trim s.toList).head? ≠ some '-'
  cause : CutsCharacter (counted s) ∨ Overflows (counted s)

theorem ofText?_eq_none_iff {cs : List Char} : Scaled.ofText? cs = none ↔ CutsCharacter cs := by
  rw [ofText?_eq, Option.map_eq_none_iff]
  exact Text.takeBytes?_eq_none_iff

/-- A sign is not among the decimals. -/
theorem cutsCharacter_cons_sign {rest : List Char} : CutsCharacter ('-' :: rest) ↔ CutsCharacter rest := Iff.rfl

theorem readUnsigned_eq_crash_iff {missing : Nat} {digits : List Char} :
    readUnsigned missing digits = .error .crashed ↔
      (∀ c ∈ digits, c.isDigit = true) ∧ value digits < Quantity.bound ∧
        Quantity.bound ≤ value digits * 10 ^ missing := by
  have hscan {n : Nat} : scan Quantity.bound digits = .ok n ↔ _ := scan_eq_ok_iff (by decide)
  unfold readUnsigned
  cases hread : scan Quantity.bound digits with
  | error fault =>
    constructor
    · cases fault <;> exact nofun
    rintro ⟨hdigits, hlt, -⟩
    rw [hscan.mpr ⟨hdigits, rfl, hlt⟩] at hread
    cases hread
  | ok n =>
    obtain ⟨hdigits, rfl, hlt⟩ := hscan.mp hread
    dsimp only
    rw [Nat.pow_eq, and_iff_right hdigits, and_iff_right hlt, ← Quantity.ofNat?_eq_none_iff]
    cases Quantity.ofNat? (value digits * 10 ^ missing) with
    | none => exact ⟨fun _ => rfl, fun _ => rfl⟩
    | some amount => constructor <;> intro h <;> cases h

theorem readNumber_signed_eq_crash_iff {rest : List Char} :
    readNumber ('-' :: rest) = .error .crashed ↔ CutsCharacter rest := by
  rw [← ofText?_eq_none_iff]
  show (match Scaled.ofText? rest with
    | some number => .ofExcept (readNegative number.missing number.digits)
    | none => .crash : Outcome NumberFault Quantity) = .error .crashed ↔ _
  cases Scaled.ofText? rest with
  | none => exact ⟨fun _ => rfl, fun _ => rfl⟩
  | some number => exact ⟨fun h => absurd h (Outcome.ofExcept_ne_crash _), nofun⟩

theorem readNumber_unsigned_eq_crash_iff {cs : List Char} (h : cs.head? ≠ some '-') :
    readNumber cs = .error .crashed ↔ CutsCharacter cs ∨ Overflows cs := by
  unfold readNumber
  split
  · exact absurd rfl h
  rw [← ofText?_eq_none_iff]
  cases hnumber : Scaled.ofText? cs with
  | none => exact ⟨fun _ => .inl rfl, fun _ => rfl⟩
  | some number =>
    rw [or_iff_right nofun]
    show readUnsigned number.missing number.digits = .error .crashed ↔ _
    rw [readUnsigned_eq_crash_iff]
    constructor
    · rintro ⟨hdigits, hlt, hle⟩
      have hlegible := legible_of_ofText? hnumber hdigits
      rw [ofText?_of_legible hlegible] at hnumber
      cases hnumber
      exact ⟨hlegible, hlt, hle⟩
    · rintro ⟨hlegible, hlt, hle⟩
      rw [ofText?_of_legible hlegible] at hnumber
      cases hnumber
      exact ⟨hlegible, hlt, hle⟩

theorem readNumber_eq_crash_iff {cs : List Char} :
    readNumber cs = .error .crashed ↔ CutsCharacter cs ∨ Overflows cs := by
  by_cases hsign : cs.head? = some '-'
  · obtain ⟨rest, rfl⟩ := List.head?_eq_some_iff.mp hsign
    rw [readNumber_signed_eq_crash_iff, cutsCharacter_cons_sign, or_iff_left]
    exact fun h => absurd (h.digits '-' List.mem_cons_self) (by decide)
  · exact readNumber_unsigned_eq_crash_iff hsign

theorem read_eq_crash_iff {s : String} : read s = .error .crashed ↔ Breaks s := by
  unfold read
  by_cases hsign : (Text.trim s.toList).head? = some '-'
  · simp only [hsign, if_true]
    exact ⟨nofun, fun h => absurd hsign h.unsigned⟩
  · simp only [hsign, if_false]
    refine Outcome.mapReason_eq_crash_iff.trans (readNumber_eq_crash_iff.trans ?_)
    exact ⟨fun h => ⟨hsign, h⟩, Breaks.cause⟩

/-! ### Reading decimal numbers -/

/-- What is read is a decimal number, and read as its amount in wei rounded down, exactly if no sign comes to
    the front, there is a digit, and the decimals that do not count are digits too. -/
theorem read_decimal_iff (s : String) (w : Quantity) :
    (read s = .ok w ↔ (Text.trim s.toList).head? ≠ some '-' ∧ Accepts (counted s) w) ∧
      (read s = .ok w → (WellFormed (counted s) ∧ w.toNat = wei (counted s) ↔
        (counted s).head? ≠ some '-' ∧ (∃ c ∈ counted s, c.isDigit = true) ∧
          ∀ c ∈ (decimals (counted s)).drop exponent, c.isDigit = true)) := by
  refine ⟨read_eq_ok_iff, fun hread => ?_⟩
  have haccepts := (read_eq_ok_iff.mp hread).2
  constructor
  · rintro ⟨hwell, -⟩
    have hdigits := (wellFormed_iff.mp hwell).1
    refine ⟨fun hsign => ?_, hwell.digit, fun c hc => hdigits c (List.mem_append_right _ (List.mem_of_mem_drop hc))⟩
    rcases hwell.plain _ (List.mem_of_mem_head? hsign) with h | h <;> cases h
  · rintro ⟨hsign, hdigit, hrest⟩
    cases haccepts with
    | unsigned hlegible hw =>
      have hdigits : ∀ c ∈ whole (counted s) ++ decimals (counted s), c.isDigit = true := by
        intro c hc
        rw [← List.take_append_drop exponent (decimals (counted s)), ← List.append_assoc] at hc
        exact (List.mem_append.mp hc).elim (hlegible c) (hrest c)
      exact ⟨wellFormed_iff.mpr ⟨hdigits, hdigit⟩, hw.trans (wei_eq hdigits).symm⟩
    | bare hfront | negated hfront => exact absurd (congrArg List.head? hfront) hsign

theorem read_decimal_threeHalves : read " 1.5" = .ok ⟨1500000000, by decide⟩ ∧
    WellFormed (counted " 1.5") ∧ wei (counted " 1.5") = 1500000000 := by
  have hread : read " 1.5" = .ok ⟨1500000000, by decide⟩ :=
    (read_decimal_iff ..).1.mpr ⟨by decide, .unsigned (by decide) (by decide)⟩
  have hrest : (decimals (counted " 1.5")).drop exponent = [] := by decide
  obtain ⟨hwell, hw⟩ := ((read_decimal_iff ..).2 hread).mpr ⟨by decide, ⟨'1', by decide, rfl⟩, hrest ▸ nofun⟩
  exact ⟨hread, hwell, hw.symm⟩

/-- A sign that an underscore hides is read. -/
theorem read_hiddenSign : read "_-1" = .ok (Quantity.wrap (-1000000000)) ∧ ¬ WellFormed (counted "_-1") := by
  have hcounted : counted "_-1" = ['-', '1'] := by decide
  have hread : read "_-1" = .ok (Quantity.wrap (-1000000000)) := by
    rw [read_eq_ok_iff, hcounted]
    exact ⟨by decide, .negated rfl (by decide) (by decide) (by decide)⟩
  refine ⟨hread, fun hwell => ?_⟩
  rcases hwell.plain '-' (by rw [hcounted]; decide) with h | h <;> cases h

theorem counted_of_plain {s : String} (h : ∀ c ∈ s.toList, c.isDigit = true ∨ c = '.') : counted s = s.toList := by
  have hblank : ∀ c ∈ s.toList, Text.isBlank c = false := by
    intro c hc
    rcases h c hc with hdigit | rfl
    · exact Text.isBlank_of_isDigit hdigit
    · decide
  rw [counted, Text.trim_eq_self hblank, List.filter_eq_self]
  intro c hc
  refine decide_eq_true fun heq => ?_
  subst heq
  rcases h _ hc with h | h <;> cases h

/-- Every decimal number is read as its amount in wei rounded down, if that is a quantity at all, and the text
    of a fee as the fee. -/
theorem read_of_wellFormed :
    (∀ s, WellFormed (counted s) → wei (counted s) < Quantity.bound →
      ∃ w, read s = .ok w ∧ w.toNat = wei (counted s)) ∧
    ∀ w : Quantity, read w.gwei = .ok w := by
  have hread : ∀ s (w : Quantity), WellFormed (counted s) → w.toNat = wei (counted s) → read s = .ok w := by
    intro s w hwell hw
    have hdigits := (wellFormed_iff.mp hwell).1
    rw [read_eq_ok_iff]
    refine ⟨fun hsign => ?_, .unsigned (fun c hc => ?_) (hw.trans (wei_eq hdigits))⟩
    · have hmem : '-' ∈ counted s := List.mem_filter.mpr ⟨List.mem_of_mem_head? hsign, by decide⟩
      rcases hwell.plain _ hmem with h | h <;> cases h
    · rcases List.mem_append.mp hc with hc | hc
      · exact hdigits c (List.mem_append_left _ hc)
      · exact hdigits c (List.mem_append_right _ (List.mem_of_mem_take hc))
  refine ⟨fun s hwell hlt => ⟨⟨wei (counted s), hlt⟩, hread s _ hwell rfl, rfl⟩, fun w => ?_⟩
  have hwell : WellFormed w.gwei.toList := w.wellFormed_inUnit exponent
  have hcounted := counted_of_plain hwell.plain
  refine hread _ w (hcounted ▸ hwell) ?_
  have hamount : amount w.gwei.toList * 10 ^ exponent = w.toNat := by
    rw [Quantity.gwei, Quantity.amount_inUnit, exponent, div_mul_cancel₀ _ (pow_ne_zero _ (by decide))]
  rw [hcounted, wei, hamount, Nat.floor_natCast]

/-- Zeros in front, underscores and further decimals do not count. -/
theorem read_of_wellFormed_long : ∃ w, read " 00_1.500_000_000_9 " = .ok w ∧ w.toNat = 1500000000 := by
  have hwell : WellFormed (counted " 00_1.500_000_000_9 ") := by decide
  have hwei : wei (counted " 00_1.500_000_000_9 ") = 1500000000 :=
    (wei_eq (wellFormed_iff.mp hwell).1).trans (by decide)
  obtain ⟨w, hread, hw⟩ := read_of_wellFormed.1 " 00_1.500_000_000_9 " hwell (by rw [hwei]; decide)
  exact ⟨w, hread, hw.trans hwei⟩

end Gwei
end SplitterLaunch
