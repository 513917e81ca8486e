import Mathlib.Data.List.Basic
import SplitterLaunch.Fiat
import SplitterLaunch.Proofs.Numeral

/-! Whole numbers with their digits in groups, divided by points. The first group has one to three digits, every other three,
    and together they are the numeral. A row of digits is divided so in one way only (`groupDigits_eq_iff`), so the text of
    a number is determined by these rules and tells the number (`grouped_exact`). -/

namespace SplitterLaunch

namespace Numeral

/-- Whether a row of characters is the numeral of a number: digits that denote it, and no zero in front of others. -/
structure Writes (digits : List Char) (n : Nat) : Prop where
  isDigit : ∀ c ∈ digits, c.isDigit = true
  ne_nil : digits ≠ []
  unpadded : digits.head? = some '0' → digits = ['0']
  denotes : value digits = n

theorem writes_iff {digits : List Char} {n : Nat} : Writes digits n ↔ digits = decimal n := by
  constructor
  · intro h
    rw [← h.denotes, decimal_value h.isDigit h.ne_nil h.unpadded]
  · rintro rfl
    refine ⟨fun _ => isDigit_of_mem_decimal, decimal_ne_nil n, fun hzero => ?_, value_decimal n⟩
    rw [head?_decimal hzero]
    rfl

end Numeral

namespace FiatAmount
variable {ds cs g : List Char} {gs hs : List (List Char)} {n : Int} {m : Nat} {c : Char}

/-! ### Groups -/

/-- Groups of one to three characters in the first place and of three in each other. -/
structure InThrees (groups : List (List Char)) : Prop where
  first : ∃ group ∈ groups.head?, 1 ≤ group.length ∧ group.length ≤ 3
  others : ∀ group ∈ groups.tail, group.length = 3

theorem inThrees_cons_iff : InThrees (g :: gs) ↔ (1 ≤ g.length ∧ g.length ≤ 3) ∧ ∀ group ∈ gs, group.length = 3 :=
  ⟨fun h => ⟨by simpa using h.first, h.others⟩, fun h => ⟨⟨g, rfl, h.1⟩, h.2⟩⟩

theorem map_length_of_three (h : ∀ group ∈ gs, group.length = 3) : gs.map List.length = List.replicate gs.length 3 :=
  List.map_eq_replicate_iff.mpr h

/-- A row of characters is divided into threes in one way only: the first group is what is left over in front of them. -/
theorem InThrees.eq_of_flatten_eq (hgs : InThrees gs) (hhs : InThrees hs) (h : gs.flatten = hs.flatten) : gs = hs := by
  obtain ⟨g, hg, -⟩ := hgs.first
  obtain ⟨gs, rfl⟩ := List.head?_eq_some_iff.mp hg
  obtain ⟨g', hg', -⟩ := hhs.first
  obtain ⟨hs, rfl⟩ := List.head?_eq_some_iff.mp hg'
  obtain ⟨hfirst, hothers⟩ := inThrees_cons_iff.mp hgs
  obtain ⟨hfirst', hothers'⟩ := inThrees_cons_iff.mp hhs
  have hlength := congrArg List.length h
  simp only [List.length_flatten, List.map_cons, map_length_of_three hothers, map_length_of_three hothers',
    List.sum_cons, List.sum_replicate_nat] at hlength
  have hone : g.length = g'.length := by omega
  have hmany : gs.length = hs.length := by omega
  refine List.eq_iff_flatten_eq.mpr ⟨h, ?_⟩
  rw [List.map_cons, List.map_cons, map_length_of_three hothers, map_length_of_three hothers', hone, hmany]

theorem flatten_splitOn (cs : List Char) : (cs.splitOn '.').flatten = cs.filter (· ≠ '.') := by
  induction cs with
  | nil => rfl
  | cons c cs ih =>
    rw [List.splitOn_cons_eq_if_modifyHead]
    by_cases hc : c = '.'
    · simp [hc, ih]
    · obtain ⟨g, gs, hsplit⟩ := List.exists_cons_of_ne_nil (List.splitOn_ne_nil '.' cs)
      have hkept : (c :: cs).filter (· ≠ '.') = c :: cs.filter (· ≠ '.') := List.filter_cons_of_pos (by simpa using hc)
      rw [if_neg (by simpa using hc), hkept, ← ih, hsplit]
      rfl

/-! ### Grouping -/

/-- Between the points stands what is grouped. The length of the first group follows from the number of the digits. -/
theorem splitOn_groupDigits (hpoint : '.' ∉ ds) (hne : ds ≠ []) : ∃ g gs, (groupDigits ds).splitOn '.' = g :: gs ∧
    g ++ gs.flatten = ds ∧ g.length = (ds.length - 1) % 3 + 1 ∧ ∀ group ∈ gs, group.length = 3 := by
  induction ds with
  | nil => exact absurd rfl hne
  | cons d ds ih =>
    have hd : d ≠ '.' := fun h => hpoint (h ▸ List.mem_cons_self)
    rw [groupDigits]
    by_cases hnil : ds = []
    · subst hnil
      exact ⟨[d], [], by simp [groupDigits, List.splitOn_cons_eq_if_modifyHead, hd], rfl, rfl, nofun⟩
    have hpos : 0 < ds.length := List.length_pos_iff.mpr hnil
    obtain ⟨g, gs, hsplit, hflat, hlength, hthree⟩ := ih (fun h => hpoint (List.mem_cons_of_mem _ h)) hnil
    by_cases hmod : ds.length % 3 = 0
    -- A point follows the digit, and what was the first group is a full one.
    · refine ⟨[d], g :: gs, ?_, congrArg (d :: ·) hflat, ?_, List.forall_mem_cons.mpr ⟨by omega, hthree⟩⟩
      · simp [hnil, hmod, List.splitOn_cons_eq_if_modifyHead, hd, hsplit]
      · simp only [List.length_cons, List.length_nil, Nat.add_sub_cancel, hmod]
    -- The digit joins the first group, which is not full.
    · refine ⟨d :: g, gs, ?_, congrArg (d :: ·) hflat, ?_, hthree⟩
      · simp [hmod, List.splitOn_cons_eq_if_modifyHead, hd, hsplit]
      · simp only [List.length_cons, Nat.add_sub_cancel]
        omega

theorem groupDigits_eq_iff (hpoint : '.' ∉ ds) (hne : ds ≠ []) :
    groupDigits ds = cs ↔ InThrees (cs.splitOn '.') ∧ cs.filter (· ≠ '.') = ds := by
  obtain ⟨g, gs, hsplit, hflat, hlength, hthree⟩ := splitOn_groupDigits hpoint hne
  have hgroups : InThrees ((groupDigits ds).splitOn '.') := hsplit ▸ inThrees_cons_iff.mpr ⟨by omega, hthree⟩
  have hdigits : ((groupDigits ds).splitOn '.').flatten = ds := hsplit ▸ hflat
  constructor
  · rintro rfl
    exact ⟨hgroups, (flatten_splitOn _).symm.trans hdigits⟩
  · rintro ⟨hthrees, hfilter⟩
    have hsame : (groupDigits ds).splitOn '.' = cs.splitOn '.' :=
      hgroups.eq_of_flatten_eq hthrees (by rw [hdigits, flatten_splitOn, hfilter])
    calc groupDigits ds = ['.'].intercalate ((groupDigits ds).splitOn '.') := (List.intercalate_splitOn '.').symm
      _ = ['.'].intercalate (cs.splitOn '.') := by rw [hsame]
      _ = cs := List.intercalate_splitOn '.'

theorem head?_groupDigits (ds : List Char) : (groupDigits ds).head? = ds.head? := by
  cases ds with
  | nil => rfl
  | cons d ds =>
    rw [groupDigits]
    split <;> rfl

theorem getLast?_groupDigits (ds : List Char) : (groupDigits ds).getLast? = ds.getLast? := by
  induction ds with
  | nil => rfl
  | cons d ds ih =>
    rw [groupDigits, List.getLast?_cons, ← ih]
    split
    · rename_i hpoint
      -- There are digits after the point, so it is not the last character.
      obtain ⟨e, es, rfl⟩ : ∃ e es, ds = e :: es := List.exists_cons_of_ne_nil (by simp_all)
      simp [List.getLast?_cons, ih]
    · exact List.getLast?_cons

/-! ### Numbers -/

/-- What is in front of the digits of a number. -/
def signOf (n : Int) : List Char := if n < 0 then ['-'] else []

/-- What comes after the sign of a text, which is all of it if it has none. -/
def afterSign : List Char → List Char
  | '-' :: cs => cs
  | cs => cs

/-- Whether a text writes a whole number in groups: with its sign, in digits with points between threes, and in its numeral
    without the points. -/
structure IsGrouped (n : Int) (cs : List Char) : Prop where
  sign : cs.head? = some '-' ↔ n < 0
  digits : ∀ group ∈ (afterSign cs).splitOn '.', ∀ c ∈ group, c.isDigit = true
  threes : InThrees ((afterSign cs).splitOn '.')
  numeral : Numeral.Writes ((afterSign cs).filter (· ≠ '.')) n.natAbs

theorem toList_grouped (n : Int) : (grouped n).toList = signOf n ++ groupDigits (Numeral.decimal n.natAbs) := by
  unfold grouped signOf
  rw [String.toList_ofList]
  split <;> rfl

theorem afterSign_of_head?_ne (h : cs.head? ≠ some '-') : afterSign cs = cs := by
  unfold afterSign
  split
  · exact absurd rfl h
  · rfl

theorem signOf_append_afterSign (h : cs.head? = some '-' ↔ n < 0) : signOf n ++ afterSign cs = cs := by
  unfold signOf
  split
  · obtain ⟨rest, rfl⟩ := List.head?_eq_some_iff.mp (h.mpr ‹n < 0›)
    rfl
  · exact afterSign_of_head?_ne (mt h.mp ‹¬n < 0›)

theorem head?_groupDigits_ne (hc : c.isDigit = false) : (groupDigits (Numeral.decimal m)).head? ≠ some c := by
  rw [head?_groupDigits]
  exact fun h => Bool.false_ne_true (hc.symm.trans (Numeral.isDigit_of_mem_decimal (List.mem_of_head? h)))

theorem getLast?_groupDigits_ne (hc : c.isDigit = false) : (groupDigits (Numeral.decimal m)).getLast? ≠ some c := by
  rw [getLast?_groupDigits]
  exact fun h => Bool.false_ne_true (hc.symm.trans (Numeral.isDigit_of_mem_decimal (List.mem_of_getLast? h)))

theorem head?_signOf_append_iff : (signOf n ++ groupDigits (Numeral.decimal m)).head? = some '-' ↔ n < 0 := by
  unfold signOf
  split
  · exact iff_of_true rfl ‹n < 0›
  · exact iff_of_false (head?_groupDigits_ne rfl) ‹¬n < 0›

theorem afterSign_signOf_append (n : Int) (m : Nat) :
    afterSign (signOf n ++ groupDigits (Numeral.decimal m)) = groupDigits (Numeral.decimal m) := by
  unfold signOf
  split
  · rfl
  · exact afterSign_of_head?_ne (head?_groupDigits_ne rfl)

theorem isGrouped_iff : IsGrouped n cs ↔ cs = signOf n ++ groupDigits (Numeral.decimal n.natAbs) := by
  have hpoint : '.' ∉ Numeral.decimal n.natAbs := fun h => Bool.false_ne_true (Numeral.isDigit_of_mem_decimal h)
  have hgroups (rest : List Char) : groupDigits (Numeral.decimal n.natAbs) = rest ↔ InThrees (rest.splitOn '.') ∧
      rest.filter (· ≠ '.') = Numeral.decimal n.natAbs := groupDigits_eq_iff hpoint (Numeral.decimal_ne_nil _)
  constructor
  · intro h
    rw [(hgroups _).mpr ⟨h.threes, Numeral.writes_iff.mp h.numeral⟩, signOf_append_afterSign h.sign]
  · rintro rfl
    obtain ⟨hthrees, hfilter⟩ := (hgroups _).mp rfl
    have hafter := afterSign_signOf_append n n.natAbs
    refine ⟨head?_signOf_append_iff, fun group hgroup c hc => ?_, ?_, ?_⟩
    · rw [hafter] at hgroup
      have hmem := List.mem_flatten_of_mem hgroup hc
      rw [flatten_splitOn, hfilter] at hmem
      exact Numeral.isDigit_of_mem_decimal hmem
    · rwa [hafter]
    · rw [hafter]
      exact Numeral.writes_iff.mpr hfilter

/-- A whole number has one text: its sign, and its numeral with points between groups of three digits. The text tells the
    number, and no point is at either end of it. -/
theorem grouped_exact (n : Int) :
    (∀ text, grouped n = text ↔ IsGrouped n text.toList) ∧
    (∀ m, grouped n = grouped m ↔ n = m) ∧
    (grouped n).toList.head? ≠ some '.' ∧ (grouped n).toList.getLast? ≠ some '.' := by
  have hexact (n : Int) (text : String) : grouped n = text ↔ IsGrouped n text.toList := by
    rw [isGrouped_iff, ← toList_grouped, String.toList_inj, eq_comm]
  refine ⟨hexact n, fun m => ⟨fun h => ?_, congrArg grouped⟩, ?_, ?_⟩
  · have hn := (hexact n _).mp rfl
    have hm := (hexact m _).mp h.symm
    have habs : n.natAbs = m.natAbs := hn.numeral.denotes.symm.trans hm.numeral.denotes
    have hsign : n < 0 ↔ m < 0 := hn.sign.symm.trans hm.sign
    omega
  · rw [toList_grouped]
    unfold signOf
    split
    · exact fun h => absurd (Option.some.inj h) (by decide)
    · exact head?_groupDigits_ne rfl
  · have hne : groupDigits (Numeral.decimal n.natAbs) ≠ [] := fun h =>
      Numeral.decimal_ne_nil n.natAbs (List.head?_eq_none_iff.mp ((head?_groupDigits _).symm.trans (h ▸ rfl)))
    rw [toList_grouped, List.getLast?_append_of_ne_nil _ hne]
    exact getLast?_groupDigits_ne rfl

example : grouped (-9223372036854775808) = "-9.223.372.036.854.775.808" := by decide

end FiatAmount
end SplitterLaunch
