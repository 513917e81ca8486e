/-! Decimal numerals. `decimal n` is the numeral of `n` without superfluous leading zeros, and `value` the
    number that a row of digits denotes, so that reading gives back what was written (`value_decimal`).
    `scan` reads a numeral below a bound and reports the first thing that stops it: a character that is no
    digit, or a digit with which the number reaches the bound. -/

namespace SplitterLaunch
namespace Numeral

/-- The numeral of `n`, with one zero for zero and no leading zeros else. -/
def decimal (n : Nat) : List Char := Nat.toDigits 10 n

/-- The number that a row of digits denotes; none denotes zero. -/
def value (digits : List Char) : Nat := Nat.ofDigitChars 10 digits 0

theorem value_decimal (n : Nat) : value (decimal n) = n :=
  Nat.ofDigitChars_toDigits (by decide) (by decide)

theorem isDigit_of_mem_decimal {n : Nat} {c : Char} (h : c ∈ decimal n) : c.isDigit = true :=
  Nat.isDigit_of_mem_toDigits (by decide) (by decide) h

theorem decimal_injective {m n : Nat} (h : decimal m = decimal n) : m = n := by
  rw [← value_decimal m, h, value_decimal]

def digitValue (c : Char) : Nat := c.toNat - '0'.toNat

/-- Why a text is no numeral of a bounded kind. -/
inductive Fault where
  | empty
  | notDigit
  | tooLarge
deriving DecidableEq, Repr

def Fault.message : Fault → String
  | .empty => "cannot parse integer from empty string"
  | .notDigit => "invalid digit found in string"
  | .tooLarge => "number too large to fit in target type"

/-- Reads digits after those that gave `acc`, stopping where the number reaches `bound`. -/
def scanFrom (bound acc : Nat) : List Char → Except Fault Nat
  | [] => .ok acc
  | c :: cs =>
    if c.isDigit then
      let n := acc * 10 + digitValue c
      if n < bound then scanFrom bound n cs else .error .tooLarge
    else .error .notDigit

/-- Reads a row of digits that denotes a number below `bound`; no digit at all reads as zero. -/
def scan (bound : Nat) (cs : List Char) : Except Fault Nat := scanFrom bound 0 cs

/-- Reads a machine integer: at least one digit, after at most one plus sign. -/
def readBelow (bound : Nat) : List Char → Except Fault Nat
  | [] => .error .empty
  | ['+'] => .error .notDigit
  | '+' :: cs => scan bound cs
  | cs => scan bound cs

theorem scanFrom_lt {bound acc n : Nat} {cs : List Char} (hacc : acc < bound)
    (h : scanFrom bound acc cs = .ok n) : n < bound := by
  induction cs generalizing acc with
  | nil => simp only [scanFrom, Except.ok.injEq] at h; omega
  | cons c cs ih =>
    simp only [scanFrom] at h
    split at h
    · split at h
      · exact ih (by assumption) h
      · simp at h
    · simp at h

theorem scan_lt {bound n : Nat} {cs : List Char} (hb : 0 < bound) (h : scan bound cs = .ok n) : n < bound :=
  scanFrom_lt hb h

/-- Reads an unsigned 64-bit integer. -/
def readUInt64 (cs : List Char) : Except Fault UInt64 := (readBelow UInt64.size cs).map UInt64.ofNat

/-- The numeral filled up with leading zeros to at least `width` digits. -/
def padded (width n : Nat) : List Char :=
  let ds := decimal n
  List.replicate (width - ds.length) '0' ++ ds

end Numeral
end SplitterLaunch
