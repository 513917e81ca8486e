import SplitterLaunch.Text.Hex
import SplitterLaunch.Text.Numeral

/-! Numeric addresses of hosts: numbers between dots, in any of three bases, and groups of hexadecimal digits
    between colons, of which two in a row leave out groups of zeros. Reading gives what an address says, and
    writing its one normal form. -/

namespace SplitterLaunch
namespace Url

/-! ### Four bytes -/

/-- A number in an address with dots: hexadecimal after `0x`, octal after `0`, decimal else. -/
def addressNumber? (cs : List Char) : Option Nat :=
  let digits (base : Nat) (ds : List Char) : Option Nat :=
    ds.foldl (fun acc c => do
      let v ← Hex.value? c
      if v < base then return (← acc) * base + v else none) (some 0)
  match cs with
  | [] => none
  | '0' :: 'x' :: ds => digits 16 ds
  | '0' :: 'X' :: ds => digits 16 ds
  | '0' :: d :: ds => digits 8 (d :: ds)
  | ds => digits 10 ds

/-- The labels of a domain name, without an empty one at the end. -/
def labels (domain : List Char) : List (List Char) :=
  let all := domain.splitOn '.'
  if all.getLast? = some [] ∧ 1 < all.length then all.dropLast else all

def endsInNumber (domain : List Char) : Bool :=
  match (labels domain).getLast? with
  | some last => !last.isEmpty && (last.all Char.isDigit || (addressNumber? last).isSome)
  | none => false

/-- The last bytes of a number, the highest first. -/
def trailingBytes (count n : Nat) : List Nat := (List.range count).reverse.map fun i => n / Nat.pow 256 i % 256

/-- The four bytes of a numeric address, written in decimal. All numbers but the last are bytes, and the last
    takes up what is left. -/
def ipv4? (domain : List Char) : Option (List Char) := do
  let parts := labels domain
  if 4 < parts.length then none
  else
    let numbers ← parts.mapM addressNumber?
    let last ← numbers.getLast?
    let first := numbers.dropLast
    if first.any (255 < ·) || Nat.pow 256 (5 - parts.length) ≤ last then none
    else
      let bytes := first ++ trailingBytes (4 - first.length) last
      return ['.'].intercalate (bytes.map Numeral.decimal)

/-! ### Eight groups -/

/-- A group: one to four hexadecimal digits. -/
def group? (cs : List Char) : Option Nat := if !cs.isEmpty && cs.length ≤ 4 then Hex.number? cs else none

/-- A byte in decimal, without zeros in front. -/
def byte? (cs : List Char) : Option Nat :=
  if !cs.isEmpty && cs.all Char.isDigit && (cs.length == 1 || cs.head? != some '0') && Numeral.value cs ≤ 255 then
    some (Numeral.value cs)
  else none

def dottedGroups? (cs : List Char) : Option (List Nat) :=
  match (cs.splitOn '.').mapM byte? with
  | some [a, b, c, d] => some [a * 256 + b, c * 256 + d]
  | _ => none

/-- The groups of a row between colons. The last may be an address with dots. -/
def groups? (cs : List Char) : Option (List Nat) :=
  if cs.isEmpty then some []
  else
    let texts := cs.splitOn ':'
    let last := texts.getLast?.getD []
    if last.contains '.' then do return (← texts.dropLast.mapM group?) ++ (← dottedGroups? last)
    else texts.mapM group?

/-- The parts of a text before and after the first two colons in a row. -/
def splitDoubleColon? : List Char → Option (List Char × List Char)
  | ':' :: ':' :: cs => some ([], cs)
  | c :: cs => (splitDoubleColon? cs).map fun (before, after) => (c :: before, after)
  | [] => none

/-- The eight groups of an address. Two colons in a row leave out one or more groups of zeros. -/
def readIpv6? (cs : List Char) : Option (List Nat) :=
  match splitDoubleColon? cs with
  | none => (groups? cs).bind fun groups => if groups.length = 8 then some groups else none
  | some (before, after) =>
    if before.contains '.' then none
    else
      match groups? before, groups? after with
      | some first, some last =>
        let known := first.length + last.length
        if known ≤ 7 then some (first ++ List.replicate (8 - known) 0 ++ last) else none
      | _, _ => none

def zeros (groups : List Nat) : Nat := (groups.takeWhile (· == 0)).length

def longestZeros : List Nat → Nat
  | [] => 0
  | g :: groups => max (zeros (g :: groups)) (longestZeros groups)

def groupText (group : Nat) : List Char := Nat.toDigits 16 group

def rowText (groups : List Nat) : List Char := [':'].intercalate (groups.map groupText)

/-- The groups before the first row of so many zeros. -/
def beforeZeros (count : Nat) : List Nat → List Nat
  | [] => []
  | g :: groups => if count ≤ zeros (g :: groups) then [] else g :: beforeZeros count groups

/-- The normal form of an address: the first of the longest rows of two or more zeros is left out. -/
def ipv6Text (groups : List Nat) : List Char :=
  let count := longestZeros groups
  if count < 2 then rowText groups
  else
    let before := beforeZeros count groups
    rowText before ++ ':' :: ':' :: rowText (groups.drop (before.length + count))

def ipv6? (cs : List Char) : Option (List Char) := (readIpv6? cs).map ipv6Text

end Url
end SplitterLaunch
