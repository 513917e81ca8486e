import SplitterLaunch.Proofs.Numeral
import SplitterLaunch.Time.Text

/-! A point in time is read back from its text, down to its nanoseconds, exactly if its year is one that can be
    read. The text fills each field up with zeros, so that a field ends where its width says; only a year with a
    sign ends where the digits do. -/

namespace SplitterLaunch

namespace Timestamp
open Numeral

/-! ### Fields -/

theorem trimStart_padded (width n : Nat) (rest : List Char) :
    Text.trimStart (padded width n ++ rest) = padded width n ++ rest := by
  apply Text.trimStart_eq_self
  intro c hc
  cases hp : padded width n with
  | nil => exact absurd hp (padded_ne_nil _ _)
  | cons d ds =>
    rw [hp] at hc
    cases hc
    exact Text.isBlank_of_isDigit (isDigit_of_mem_padded (hp ▸ List.mem_cons_self))

theorem digits?_padded {width n : Nat} (hw : 0 < width) (h : n < 10 ^ width) (rest : List Char) :
    digits? width (padded width n ++ rest) = some (n, rest) := by
  have hlength := length_padded hw h
  have htake : ((padded width n ++ rest).takeWhile Char.isDigit).take width = padded width n := by
    rw [List.takeWhile_append_of_pos fun _ hc => isDigit_of_mem_padded hc]
    exact List.take_left' hlength
  have hne : (padded width n).isEmpty = false := by simp [padded_ne_nil]
  unfold digits?
  simp only [htake, hne, Bool.false_eq_true, if_false, value_padded, List.drop_left]

theorem field?_padded {n : Nat} (h : n < 100) (rest : List Char) : field? (padded 2 n ++ rest) = some (n, rest) := by
  unfold field?
  rw [trimStart_padded, digits?_padded (by decide) h]

theorem year?_padded {n : Nat} (h : n < 10000) (rest : List Char) :
    year? (padded 4 n ++ rest) = some ((n : Int), rest) := by
  unfold year?
  rw [trimStart_padded]
  have hdigits : digits? 4 (padded 4 n ++ rest) = some (n, rest) := digits?_padded (by decide) h rest
  cases hp : padded 4 n with
  | nil => exact absurd hp (padded_ne_nil _ _)
  | cons d ds =>
    have hd : d.isDigit = true := isDigit_of_mem_padded (hp ▸ List.mem_cons_self)
    rw [hp] at hdigits
    rw [List.cons_append] at hdigits ⊢
    split
    · rename_i heq
      cases heq
      exact absurd hd (by decide)
    · rename_i heq
      cases heq
      exact absurd hd (by decide)
    · rw [hdigits]
      rfl

/-- A row of digits that something else follows. -/
theorem digits?_append {ds rest : List Char} (hds : ∀ c ∈ ds, c.isDigit = true) (hne : ds ≠ []) (hrest : EndsDigits rest)
    {width : Nat} (hwidth : ds.length ≤ width) : digits? width (ds ++ rest) = some (value ds, rest) := by
  have htake : ((ds ++ rest).takeWhile Char.isDigit).take width = ds := by
    rw [takeWhile_isDigit_append hds hrest]
    exact List.take_of_length_le hwidth
  have hempty : ds.isEmpty = false := by simp [hne]
  unfold digits?
  simp only [htake, hempty, Bool.false_eq_true, if_false, List.drop_left]

/-- After a sign the digits of a year may be more than four. -/
theorem year?_signed (n : Nat) {rest : List Char} (hrest : EndsDigits rest) :
    year? ('-' :: (padded 4 n ++ rest)) = some (-(n : Int), rest) ∧
      year? ('+' :: (padded 4 n ++ rest)) = some ((n : Int), rest) := by
  have hdigits : digits? (padded 4 n ++ rest).length (padded 4 n ++ rest) = some (n, rest) := by
    rw [digits?_append (fun _ hc => isDigit_of_mem_padded hc) (padded_ne_nil _ _) hrest
      (by rw [List.length_append]; exact Nat.le_add_right _ _), value_padded]
  constructor
  · rw [year?, Text.trimStart_eq_self fun c hc => by cases hc; rfl]
    exact congrArg (Option.map _) hdigits
  · rw [year?, Text.trimStart_eq_self fun c hc => by cases hc; rfl]
    exact congrArg (Option.map _) hdigits

theorem year?_writeYear (year : Int) (rest : List Char) :
    year? (writeYear year ++ '-' :: rest) = some (year, '-' :: rest) := by
  have hdash : EndsDigits ('-' :: rest) := by
    rintro c ⟨⟩
    rfl
  obtain ⟨hminus, hplus⟩ := year?_signed year.natAbs hdash
  unfold writeYear
  split
  · rename_i h
    rw [year?_padded (by omega), Int.toNat_of_nonneg h.1]
  split
  · rw [List.cons_append, hminus, show -(year.natAbs : Int) = year by omega]
  · rw [List.cons_append, hplus, show (year.natAbs : Int) = year by omega]

theorem afterMark?_cons {mark : Char} (h : Text.isBlank mark = false) (rest : List Char) :
    afterMark? mark (mark :: rest) = some rest := by
  unfold afterMark?
  rw [Text.trimStart_eq_self fun c hc => by cases hc; exact h]
  exact if_pos rfl

/-- Decimals that fill their width, before the end of the text. -/
theorem fraction?_padded {width k : Nat} (hw : 0 < width) (hle : width ≤ 9) (h : k < 10 ^ width) :
    fraction? ('.' :: padded width k ++ ['Z']) = some (k * 10 ^ (9 - width), ['Z']) := by
  have hlength := length_padded hw h
  have htake : (padded width k ++ ['Z']).takeWhile Char.isDigit = padded width k := by
    apply takeWhile_isDigit_append fun _ hc => isDigit_of_mem_padded hc
    rintro c ⟨⟩
    rfl
  have hkept : (padded width k).take 9 = padded width k := List.take_of_length_le (by omega)
  have hne : (padded width k).isEmpty = false := by simp [padded_ne_nil]
  rw [List.cons_append, fraction?]
  simp only [htake, hkept, hne, Bool.false_eq_true, if_false, value_padded, hlength, List.drop_left' hlength]
  rfl

theorem fraction?_writeFraction {n : Nat} (h : n < 1000000000) :
    fraction? (writeFraction n ++ ['Z']) = some (n, ['Z']) := by
  unfold writeFraction
  split
  · rename_i h0
    rw [h0]
    rfl
  · split
    · rw [fraction?_padded (by decide) (by decide) (by omega)]
      congr 2
      omega
    · split
      · rw [fraction?_padded (by decide) (by decide) (by omega)]
        congr 2
        omega
      · rw [fraction?_padded (by decide) (by decide) (by omega)]
        congr 2
        omega

/-! ### The whole text -/

theorem ofParts?_date (d : Date) : Date.ofParts? d.year d.month d.day = some d :=
  dif_pos ⟨d.month_range, d.day_range⟩

theorem ofFields?_self (t : Timestamp) : ofFields? t.date t.hour t.minute t.second t.nanosecond = some t :=
  dif_pos ⟨t.hour_lt, t.minute_lt, t.second_le, t.nanosecond_lt⟩

theorem subMinutes_zero (t : Timestamp) : t.subMinutes 0 = t := by
  obtain ⟨date, hour, minute, second, nanosecond, hh, hm, hs, hn⟩ := t
  have hlow : ¬(hour * 60 + minute - 0 : Int) < 0 := by omega
  have hhigh : ¬(1440 : Int) ≤ hour * 60 + minute - 0 := by omega
  simp only [subMinutes, if_neg hlow, if_neg hhigh]
  congr 1
  · omega
  · omega

theorem day_lt (d : Date) : d.day < 100 := by
  have h := d.day_range.2
  unfold daysInMonth at h
  repeat' split at h
  all_goals omega

/-- Reading goes on with what it has read. -/
theorem bind_of_eq_some {α β : Type} {o : Option α} {a : α} (h : o = some a) (f : α → Option β) : (o >>= f) = f a := by
  rw [h]
  rfl

/-- A time of a year that can be read. -/
def InRange (t : Timestamp) : Prop := yearInRange t.date.year = true

theorem read?_write {t : Timestamp} (h : t.InRange) : read? t.write = some t := by
  have hmonth := t.date.month_range
  have hday := day_lt t.date
  have hhour := t.hour_lt
  have hminute := t.minute_lt
  have hsecond := t.second_le
  have hdash : Text.isBlank '-' = false := rfl
  have hcolon : Text.isBlank ':' = false := rfl
  have hend : offset? (Text.trimStart ['Z']) = some (0, []) := rfl
  unfold read? write
  simp only [List.append_assoc, List.cons_append]
  -- one step of reading for each field, in the order of the text
  refine (bind_of_eq_some (year?_writeYear t.date.year _) _).trans ?_
  refine (bind_of_eq_some (afterMark?_cons hdash _) _).trans ((bind_of_eq_some (field?_padded (by omega) _) _).trans ?_)
  refine (bind_of_eq_some (afterMark?_cons hdash _) _).trans ((bind_of_eq_some (field?_padded hday _) _).trans ?_)
  refine (if_pos (Or.inl rfl)).trans ?_
  refine (bind_of_eq_some rfl _).trans ((bind_of_eq_some (field?_padded (by omega) _) _).trans ?_)
  refine (bind_of_eq_some (afterMark?_cons hcolon _) _).trans ((bind_of_eq_some (field?_padded (by omega) _) _).trans ?_)
  refine (bind_of_eq_some (afterMark?_cons hcolon _) _).trans ((bind_of_eq_some (field?_padded (by omega) _) _).trans ?_)
  refine (bind_of_eq_some (fraction?_writeFraction t.nanosecond_lt) _).trans ((bind_of_eq_some hend _).trans ?_)
  refine (bind_of_eq_some (ofParts?_date t.date) _).trans ((bind_of_eq_some (ofFields?_self t) _).trans ?_)
  rw [subMinutes_zero, show yearInRange t.date.year = true from h]
  rfl

/-! ### What is read -/

/-- Reading that came to its end got past every step. -/
theorem exists_of_bind_eq_some {α β : Type} {o : Option α} {f : α → Option β} {b : β} (h : (o >>= f) = some b) :
    ∃ a, f a = some b := by
  obtain ⟨a, -, ha⟩ := Option.bind_eq_some_iff.mp h
  exact ⟨a, ha⟩

theorem inRange_of_read? {cs : List Char} {t : Timestamp} (h : read? cs = some t) : t.InRange := by
  unfold read? at h
  obtain ⟨⟨year, _⟩, h⟩ := exists_of_bind_eq_some h
  obtain ⟨_, h⟩ := exists_of_bind_eq_some h
  obtain ⟨⟨month, _⟩, h⟩ := exists_of_bind_eq_some h
  obtain ⟨_, h⟩ := exists_of_bind_eq_some h
  obtain ⟨⟨day, rest⟩, h⟩ := exists_of_bind_eq_some h
  cases rest with
  | nil => cases h
  | cons c rest =>
    dsimp only at h
    split at h
    · obtain ⟨_, h⟩ := exists_of_bind_eq_some h
      obtain ⟨⟨hour, _⟩, h⟩ := exists_of_bind_eq_some h
      obtain ⟨_, h⟩ := exists_of_bind_eq_some h
      obtain ⟨⟨minute, _⟩, h⟩ := exists_of_bind_eq_some h
      obtain ⟨_, h⟩ := exists_of_bind_eq_some h
      obtain ⟨⟨second, _⟩, h⟩ := exists_of_bind_eq_some h
      obtain ⟨⟨nanosecond, _⟩, h⟩ := exists_of_bind_eq_some h
      obtain ⟨⟨offset, _⟩, h⟩ := exists_of_bind_eq_some h
      obtain ⟨date, h⟩ := exists_of_bind_eq_some h
      obtain ⟨shown, h⟩ := exists_of_bind_eq_some h
      -- the year is looked at last, after the offset
      dsimp only at h
      split at h
      · rename_i hall
        cases h
        exact (Bool.and_eq_true _ _ ▸ hall).2
      · cases h
    · cases h

end Timestamp
end SplitterLaunch
