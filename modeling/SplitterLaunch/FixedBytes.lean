import SplitterLaunch.Text.Bytes
import SplitterLaunch.Text.Hex
import SplitterLaunch.Text.Numeral

/-! Byte strings of a fixed length: addresses of 20 bytes and hashes of 32. Their text is `0x` and lower-case
    digits. Stored text is read with or without `0x`; it must have two characters for each byte, of which
    blanks are skipped, so that missing digits at the end count as zeros. -/

namespace SplitterLaunch

/-- A byte string of `n` bytes. -/
structure FixedBytes (n : Nat) where
  bytes : List UInt8
  length_bytes : bytes.length = n
deriving DecidableEq, Repr

abbrev Address := FixedBytes 20

abbrev Hash := FixedBytes 32

namespace FixedBytes
variable {n : Nat}

theorem ext {a b : FixedBytes n} (h : a.bytes = b.bytes) : a = b := by
  cases a; cases b; simp_all

/-- The byte string made of these bytes: cut at the end, or filled up with zeros. -/
def fit (n : Nat) (bytes : List UInt8) : FixedBytes n :=
  ⟨bytes.take n ++ List.replicate (n - bytes.length) 0, by simp; omega⟩

def zero : FixedBytes n := ⟨List.replicate n 0, by simp⟩

/-- The text with digits of lower case, after `0x`. -/
def text (b : FixedBytes n) : String := String.ofList ('0' :: 'x' :: Hex.encode b.bytes)

/-- Whether hexadecimal text may hold the character between its digits. -/
def isFiller (c : Char) : Bool := c == ' ' || c == '\t' || c == '\n' || c == '\r'

/-- A text without the `0x` in front of it, if there is one. -/
def stripMark : List Char → List Char
  | '0' :: 'x' :: cs => cs
  | cs => cs

def ofText? (n : Nat) (s : String) : Option (FixedBytes n) :=
  let cs := stripMark s.toList
  if Text.byteLength cs = 2 * n then
    let digits := cs.filter fun c => !isFiller c
    (Hex.decode? (digits.take (digits.length / 2 * 2))).bind fun bytes =>
      if digits.all Hex.isDigit then some (fit n bytes) else none
  else none

end FixedBytes
end SplitterLaunch
