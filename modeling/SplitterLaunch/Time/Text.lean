import SplitterLaunch.Text.Blank
import SplitterLaunch.Text.Numeral
import SplitterLaunch.Time

/-! The text of a point in time: date, the letter `T`, time of day and `Z`, with as many decimals of the
    second as needed out of none, three, six and nine. Reading is less strict: fields may lack their leading
    zeros, blanks may stand before most of them, and any offset from UTC may end the text. -/

namespace SplitterLaunch
namespace Timestamp

/-! ### Writing -/

/-- Four digits for the years up to 9999; other years have a sign. -/
def writeYear (year : Int) : List Char :=
  if 0 ≤ year ∧ year ≤ 9999 then Numeral.padded 4 year.toNat
  else (if year < 0 then '-' else '+') :: Numeral.padded 4 year.natAbs

/-- The decimals of a second, with their point. -/
def writeFraction (nanosecond : Nat) : List Char :=
  if nanosecond = 0 then []
  else if nanosecond % 1000000 = 0 then '.' :: Numeral.padded 3 (nanosecond / 1000000)
  else if nanosecond % 1000 = 0 then '.' :: Numeral.padded 6 (nanosecond / 1000)
  else '.' :: Numeral.padded 9 nanosecond

def write (t : Timestamp) : List Char :=
  writeYear t.date.year ++ '-' :: Numeral.padded 2 t.date.month ++ '-' :: Numeral.padded 2 t.date.day
    ++ 'T' :: Numeral.padded 2 t.hour ++ ':' :: Numeral.padded 2 t.minute ++ ':' :: Numeral.padded 2 t.second
    ++ writeFraction t.nanosecond ++ ['Z']

def text (t : Timestamp) : String := String.ofList t.write

/-! ### Reading -/

/-- At least one and at most `width` digits at the start of a text, and what comes after them. -/
def digits? (width : Nat) (cs : List Char) : Option (Nat × List Char) :=
  let ds := (cs.takeWhile Char.isDigit).take width
  if ds.isEmpty then none else some (Numeral.value ds, cs.drop ds.length)

/-- A field of one or two digits, after blanks. -/
def field? (cs : List Char) : Option (Nat × List Char) := digits? 2 (Text.trimStart cs)

/-- A year, after blanks: up to four digits, or any number of them after a sign. -/
def year? (cs : List Char) : Option (Int × List Char) :=
  match Text.trimStart cs with
  | '-' :: cs => (digits? cs.length cs).map fun (n, rest) => (-(n : Int), rest)
  | '+' :: cs => (digits? cs.length cs).map fun (n, rest) => ((n : Int), rest)
  | cs => (digits? 4 cs).map fun (n, rest) => ((n : Int), rest)

/-- What comes after a mark, before which there may be blanks. -/
def afterMark? (mark : Char) (cs : List Char) : Option (List Char) :=
  match Text.trimStart cs with
  | c :: rest => if c = mark then some rest else none
  | [] => none

/-- The nanoseconds of the decimals that follow a point; digits beyond the ninth do not count. -/
def fraction? : List Char → Option (Nat × List Char)
  | '.' :: cs =>
    let ds := cs.takeWhile Char.isDigit
    if ds.isEmpty then none
    else
      let kept := ds.take 9
      some (Numeral.value kept * Nat.pow 10 (9 - kept.length), cs.drop ds.length)
  | cs => some (0, cs)

/-- The minutes by which clocks are ahead of UTC: a sign and two digits each for hours and minutes. -/
def numericOffset? (cs : List Char) : Option (Int × List Char) := do
  let (negative, cs) ← match cs with
    | '+' :: cs => some (false, cs)
    | '-' :: cs => some (true, cs)
    | '\u2212' :: cs => some (true, cs)
    | _ => none
  let (hours, cs) ← match cs with
    | a :: b :: cs => if a.isDigit && b.isDigit then some (Numeral.value [a, b], cs) else none
    | _ => none
  let (minutes, cs) ← match cs.dropWhile fun c => c == ':' || Text.isBlank c with
    | a :: b :: cs => if a.isDigit && a.toNat < '6'.toNat && b.isDigit then some (Numeral.value [a, b], cs) else none
    | _ => none
  let total : Int := hours * 60 + minutes
  if total < 1440 then return (if negative then -total else total, cs) else none

/-- An offset: `Z`, `UTC` in letters of either case, or a numeric one. -/
def offset? : List Char → Option (Int × List Char)
  | 'Z' :: cs => some (0, cs)
  | 'z' :: cs => some (0, cs)
  | cs =>
    if (cs.take 3).map Char.toUpper = ['U', 'T', 'C'] then some (0, cs.drop 3) else numericOffset? cs

def yearInRange (year : Int) : Bool := -262143 ≤ year && year ≤ 262142

/-- The point in time with these fields, if they name one. -/
def ofFields? (date : Date) (hour minute second nanosecond : Nat) : Option Timestamp :=
  if h : hour < 24 ∧ minute < 60 ∧ second ≤ 60 ∧ nanosecond < 1000000000 then
    some ⟨date, hour, minute, second, nanosecond, h.1, h.2.1, h.2.2.1, h.2.2.2⟩
  else none

/-- Reads a date, a letter `T` or a space, a time of day and an offset. -/
def read? (cs : List Char) : Option Timestamp := do
  let (year, cs) ← year? cs
  let (month, cs) ← field? (← afterMark? '-' cs)
  let (day, cs) ← field? (← afterMark? '-' cs)
  let cs ← match cs with
    | c :: rest => if c = 'T' ∨ c = 't' ∨ c = ' ' then some rest else none
    | [] => none
  let (hour, cs) ← field? cs
  let (minute, cs) ← field? (← afterMark? ':' cs)
  let (second, cs) ← field? (← afterMark? ':' cs)
  let (nanosecond, cs) ← fraction? cs
  let (offset, cs) ← offset? (Text.trimStart cs)
  let shown ← ofFields? (← Date.ofParts? year month day) hour minute second nanosecond
  let t := shown.subMinutes offset
  if (Text.trimStart cs).isEmpty && yearInRange year && yearInRange t.date.year then return t else none

end Timestamp
end SplitterLaunch
