import SplitterLaunch.Json.Text
import SplitterLaunch.Proofs.Numeral

/-! Numerals in JSON text. A numeral has one spelling with a small letter before a signed exponent, and reading
    takes all of it up and nothing behind it, unless what stands behind it would go on with it. -/

namespace SplitterLaunch
namespace Json
namespace Numeral
open SplitterLaunch.Numeral

/-- The text of an exponent. -/
def spellExponent : Option (Bool × List Char) → List Char
  | none => []
  | some (negative, ds) => 'e' :: (if negative then '-' else '+') :: ds

/-- The text of the digits after the point. -/
def spellFraction : Option (List Char) → List Char
  | none => []
  | some ds => '.' :: ds

/-- The text of a numeral. -/
def spell (n : Numeral) : List Char :=
  (if n.negative then ['-'] else []) ++ (n.whole ++ (spellFraction n.fraction ++ spellExponent n.exponent))

/-- A row of digits that holds at least one. -/
def IsRow (ds : List Char) : Prop := ds ≠ [] ∧ ∀ c ∈ ds, c.isDigit = true

/-- A numeral whose parts are rows of digits, with no zero in front of other digits. -/
structure WellFormed (n : Numeral) : Prop where
  whole : IsRow n.whole
  leading : n.whole.head? = some '0' → n.whole.length = 1
  fraction : ∀ ds ∈ n.fraction, IsRow ds
  exponent : ∀ e ∈ n.exponent, IsRow e.2

/-- A text that does not go on with a numeral in front of it. -/
def EndsNumeral (rest : List Char) : Prop := ∀ c ∈ rest.head?, c.isDigit = false ∧ c ≠ '.' ∧ c ≠ 'e' ∧ c ≠ 'E'

theorem endsNumeral_nil : EndsNumeral [] := fun _ h => by cases h

theorem endsNumeral_cons {c : Char} {rest : List Char} (h : c.isDigit = false ∧ c ≠ '.' ∧ c ≠ 'e' ∧ c ≠ 'E') :
    EndsNumeral (c :: rest) := fun _ hc => by cases hc; exact h

theorem EndsNumeral.endsDigits {rest : List Char} (h : EndsNumeral rest) : EndsDigits rest := fun c hc => (h c hc).1

section Read
variable {ds rest : List Char}

theorem endsDigits_spellExponent {e : Option (Bool × List Char)} (h : EndsNumeral rest) :
    EndsDigits (spellExponent e ++ rest) := by
  cases e with
  | none => exact h.endsDigits
  | some e =>
    rintro c ⟨⟩
    rfl

theorem endsDigits_spellFraction {f : Option (List Char)} {e : Option (Bool × List Char)} (h : EndsNumeral rest) :
    EndsDigits (spellFraction f ++ (spellExponent e ++ rest)) := by
  cases f with
  | none => exact endsDigits_spellExponent h
  | some ds =>
    rintro c ⟨⟩
    rfl

theorem whole?_append (hds : IsRow ds) (hlead : ds.head? = some '0' → ds.length = 1) (h : EndsDigits rest) :
    whole? (ds ++ rest) = some (ds, rest) := by
  have hne : ds.isEmpty = false := by simp [hds.1]
  have hzero : (ds.head? == some '0' && ds.length != 1) = false := by
    by_cases hd : ds.head? = some '0'
    · simp [hlead hd]
    · simp [hd]
  unfold whole?
  simp only [takeWhile_isDigit_append hds.2 h, dropWhile_isDigit_append hds.2 h, hne, hzero, Bool.or_self,
    Bool.false_eq_true, if_false]

theorem fraction?_append {f : Option (List Char)} {e : Option (Bool × List Char)} (hf : ∀ ds ∈ f, IsRow ds)
    (h : EndsNumeral rest) :
    fraction? (spellFraction f ++ (spellExponent e ++ rest)) = some (f, spellExponent e ++ rest) := by
  cases f with
  | some ds =>
    have hds := hf ds rfl
    have hne : ds.isEmpty = false := by simp [hds.1]
    have hend := endsDigits_spellExponent (e := e) h
    show fraction? ('.' :: (ds ++ (spellExponent e ++ rest))) = _
    rw [fraction?]
    simp only [takeWhile_isDigit_append hds.2 hend, dropWhile_isDigit_append hds.2 hend, hne, Bool.false_eq_true,
      if_false]
  | none =>
    show fraction? (spellExponent e ++ rest) = _
    rw [fraction?]
    rintro cs hcs
    cases e with
    | some e => cases hcs
    | none =>
      rw [show spellExponent none ++ rest = rest from rfl] at hcs
      subst hcs
      exact (h '.' rfl).2.1 rfl

theorem exponent?_append {e : Option (Bool × List Char)} (he : ∀ x ∈ e, IsRow x.2) (h : EndsNumeral rest) :
    exponent? (spellExponent e ++ rest) = some (e, rest) := by
  cases e with
  | some e =>
    obtain ⟨negative, ds⟩ := e
    have hds : IsRow ds := he (negative, ds) rfl
    have hne : ds.isEmpty = false := by simp [hds.1]
    have hsign : sign ((if negative then '-' else '+') :: (ds ++ rest)) = (negative, ds ++ rest) := by
      cases negative <;> rfl
    show exponent? ('e' :: (if negative then '-' else '+') :: (ds ++ rest)) = _
    rw [exponent?, if_pos (show ('e' == 'e' || 'e' == 'E') = true from rfl), hsign]
    simp only [takeWhile_isDigit_append hds.2 h.endsDigits, dropWhile_isDigit_append hds.2 h.endsDigits, hne,
      Bool.false_eq_true, if_false]
  | none =>
    show exponent? rest = some (none, rest)
    cases rest with
    | nil => rfl
    | cons c rest =>
      obtain ⟨-, -, he, hE⟩ := h c rfl
      rw [exponent?, if_neg]
      simp [he, hE]

theorem exists_cons_of_isRow {ds : List Char} (h : IsRow ds) : ∃ c cs, ds = c :: cs ∧ c ≠ '-' := by
  obtain ⟨c, cs, rfl⟩ := List.exists_cons_of_ne_nil h.1
  refine ⟨c, cs, rfl, ?_⟩
  rintro rfl
  exact absurd (h.2 '-' List.mem_cons_self) (by decide)

/-- Reading a numeral takes up its spelling and nothing else. -/
theorem read?_spell {n : Numeral} (hn : n.WellFormed) (h : EndsNumeral rest) :
    read? (n.spell ++ rest) = some (n, rest) := by
  obtain ⟨negative, whole, fraction, exponent⟩ := n
  have hwhole := whole?_append hn.whole hn.leading (endsDigits_spellFraction (f := fraction) (e := exponent) h)
  have hfraction := fraction?_append (e := exponent) hn.fraction h
  have hexponent := exponent?_append hn.exponent h
  have hspell : spell ⟨negative, whole, fraction, exponent⟩ ++ rest =
      (if negative then ['-'] else []) ++ (whole ++ (spellFraction fraction ++ (spellExponent exponent ++ rest))) := by
    simp only [spell, List.append_assoc]
  rw [hspell]
  unfold read?
  cases negative with
  | true =>
    show (whole? (whole ++ _)).bind _ = _
    simp only [hwhole, hfraction, hexponent, Option.bind_eq_bind, Option.bind_some]
    rfl
  | false =>
    -- a row of digits must not be taken for a sign
    obtain ⟨c, cs, rfl, hc⟩ := exists_cons_of_isRow hn.whole
    simp only [Bool.false_eq_true, if_false, List.nil_append, List.cons_append] at hwhole ⊢
    split
    · rename_i heq
      cases heq
      exact absurd rfl hc
    · simp only [hwhole, hfraction, hexponent, Option.bind_eq_bind, Option.bind_some]
      rfl

end Read

end Numeral
end Json
end SplitterLaunch
