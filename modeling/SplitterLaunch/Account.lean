import SplitterLaunch.Crypto.Curve
import SplitterLaunch.Crypto.Keccak
import SplitterLaunch.FixedBytes
import SplitterLaunch.Text.Quoted

/-! Addresses as users write and read them, and the accounts that secret keys open. The printed form of an
    address carries a checksum in the case of its letters. The read form is forty hexadecimal digits of either
    case after an optional `0x`, with blanks anywhere; the first thing that is wrong is reported. A key is read
    from 64 digits, and told apart are texts that spell no 32 bytes and numbers that open no account. -/

namespace SplitterLaunch
namespace Address

/-- A digit in upper case if it is a letter and the matching half byte of the checksum is eight or more. -/
def checked (c : Char) (half : Nat) : Char := if 8 ≤ half then c.toUpper else c

/-- The half bytes of a byte string, the upper one of each byte first. -/
def halves (bytes : List UInt8) : List Nat := bytes.flatMap fun b => [b.toNat / 16, b.toNat % 16]

/-- The text with the checksum: the hash of the digits decides which letters are capitals. -/
def checksum (a : Address) : String :=
  let digits := Hex.encode a.bytes
  let hash := Keccak.hash (digits.map fun c => UInt8.ofNat c.toNat)
  String.ofList ('0' :: 'x' :: List.zipWith checked digits (halves hash))

/-- Why a text is no address. -/
inductive Fault where
  | length
  | character (c : Char) (position : Nat)
deriving DecidableEq, Repr

def Fault.message : Fault → String
  | .length => "Invalid input length"
  | .character c position =>
    "Invalid character '" ++ String.singleton c ++ "' at position " ++ String.ofList (Numeral.decimal position)

/-- Reads the given number of digits from a text whose first character stands at `position`, counted in
    bytes. Only blanks may come after them. -/
def readDigits (position : Nat) : Nat → List Char → Except Fault (List Char)
  | 0, cs => if cs.all FixedBytes.isFiller then .ok [] else .error .length
  | _, [] => .error .length
  | n + 1, c :: cs =>
    if FixedBytes.isFiller c then readDigits (position + 1) (n + 1) cs
    else if Hex.isDigit c then (readDigits (position + c.utf8Size) n cs).map (c :: ·)
    else .error (.character c position)

def read (s : String) : Except Fault Address :=
  (readDigits 0 40 (FixedBytes.stripMark s.toList)).map fun digits =>
    .fit 20 ((Hex.decode? digits).getD [])

end Address

/-- A secret key that opens an account: a number from one up to the order of the curve. -/
structure Key where
  secret : Nat
  pos : 0 < secret
  lt_order : secret < Curve.order
deriving DecidableEq, Repr

namespace Key

/-- The key with this number, if there is one. -/
def ofNat? (n : Nat) : Option Key :=
  if h : 0 < n ∧ n < Curve.order then some ⟨n, h.1, h.2⟩ else none

/-- Why a text is no key. The last of the faults is one of the number, all others are of the form. -/
inductive Fault where
  | oddDigits
  | character (c : Char) (position : Nat)
  | length
  | outOfRange
deriving DecidableEq, Repr

/-- A character is shown by the first of its bytes. -/
def Fault.message : Fault → String
  | .oddDigits => "odd number of digits"
  | .character c position =>
    let byte := (Text.toBytes (String.singleton c)).headD 0
    "invalid character " ++ Text.quotedChar (Char.ofNat byte.toNat) ++ " at position "
      ++ String.ofList (Numeral.decimal position)
  | .length => "invalid string length"
  | .outOfRange => "signature error"

/-- The digits of a text, before which an `0X`, and then an `0x`, do not count. -/
def digitsOf (text : String) : List Char :=
  FixedBytes.stripMark (match text.toList with
    | '0' :: 'X' :: cs => cs
    | cs => cs)

def read (text : String) : Except Fault Key :=
  let cs := digitsOf text
  if Text.byteLength cs % 2 = 1 then .error .oddDigits
  else match cs.dropWhile Hex.isDigit with
    | c :: _ => .error (.character c (cs.takeWhile Hex.isDigit).length)
    | [] =>
      if cs.length ≠ 64 then .error .length
      else match (Hex.number? cs).bind ofNat? with
        | some key => .ok key
        | none => .error .outOfRange

/-- The bytes of a number of at most 256 bits, the highest first. -/
def bytes32 (n : Nat) : List UInt8 := (List.range 32).map fun i => UInt8.ofNat (n / Nat.pow 256 (31 - i))

/-- The address of the account: the end of the hash of the public point. -/
def address (k : Key) : Address :=
  let (x, y) := (Curve.Point.multiple k.secret).affine
  .fit 20 ((Keccak.hash (bytes32 x ++ bytes32 y)).drop 12)

end Key
end SplitterLaunch
