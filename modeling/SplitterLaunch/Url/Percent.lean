import SplitterLaunch.Text.Bytes
import SplitterLaunch.Text.Hex

/-! Percent signs in URLs: a byte that may not stand as it is stands as a percent sign and two digits. Control
    characters and characters beyond ASCII never stand as they are. -/

namespace SplitterLaunch
namespace Url

/-- The bytes of a text in UTF-8. -/
def utf8 (cs : List Char) : List UInt8 := Text.toBytes (String.ofList cs)

/-- A character as it stands in a URL where those in `special` do not stand as they are. -/
def encodeChar (special : List Char) (c : Char) : List Char :=
  if c.toNat < 0x20 || 0x7f ≤ c.toNat || special.contains c then
    (utf8 [c]).flatMap fun b => '%' :: (Hex.encodeByte b).map Char.toUpper
  else [c]

def encode (special cs : List Char) : List Char := cs.flatMap (encodeChar special)

/-- The bytes of a text in which a percent sign and two digits stand for a byte. -/
def percentDecode : List Char → List UInt8
  | '%' :: h :: l :: cs =>
    match Hex.value? h, Hex.value? l with
    | some hi, some lo => UInt8.ofNat (hi * 16 + lo) :: percentDecode cs
    | _, _ => utf8 ['%'] ++ percentDecode (h :: l :: cs)
  | c :: cs => utf8 [c] ++ percentDecode cs
  | [] => []
termination_by cs => cs.length

/-- The text that a text with percent signs stands for, if it is one. -/
def decode? (cs : List Char) : Option String := Text.ofBytes? (percentDecode cs)

/-! ### What does not stand as it is in the parts of a URL -/

def querySpecial : List Char := [' ', '"', '#', '<', '>']

def hostedQuerySpecial : List Char := '\x27' :: querySpecial

def fragmentSpecial : List Char := [' ', '"', '<', '>', '\x60']

def pathSpecial : List Char := fragmentSpecial ++ ['#', '?', '\x7b', '\x7d']

def credentialsSpecial : List Char := pathSpecial ++ ['/', ':', ';', '=', '@', '[', '\\', ']', '^', '|']

end Url
end SplitterLaunch
