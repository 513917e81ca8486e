import SplitterLaunch.Json.Number
import SplitterLaunch.Json.Source
import SplitterLaunch.Text.Hex

/-! JSON text and the values it denotes. `read?` takes any layout, at most 127 levels deep, and orders the
    members of each object by name, the last of several with one name counting. `write` lays a value out as
    its `Layout` says, escaping control characters, quotes and backslashes only. -/

namespace SplitterLaunch
namespace Json

/-! ### Strings -/

/-- The character that an escape of one letter stands for. -/
def unescape (c : Char) : Char :=
  if c == 'b' then '\x08' else if c == 'f' then '\x0c' else if c == 'n' then '\n'
  else if c == 'r' then '\r' else if c == 't' then '\t' else c

def unit (a b c d : Char) : Nat := (Hex.number? [a, b, c, d]).getD 0

def isHighSurrogate (n : Nat) : Bool := 0xD800 ≤ n && n < 0xDC00

def isLowSurrogate (n : Nat) : Bool := 0xDC00 ≤ n && n < 0xE000

/-- The text that the characters between two quotes denote. An escaped surrogate counts only as the first
    or second of a pair. -/
def text? : List Char → Option (List Char)
  | [] => some []
  | '\\' :: 'u' :: a :: b :: c :: d :: cs =>
    let n := unit a b c d
    if isLowSurrogate n then none
    else if isHighSurrogate n then
      match cs with
      | '\\' :: 'u' :: a' :: b' :: c' :: d' :: rest =>
        let m := unit a' b' c' d'
        if isLowSurrogate m then
          (text? rest).map (Char.ofNat (0x10000 + (n - 0xD800) * 0x400 + (m - 0xDC00)) :: ·)
        else none
      | _ => none
    else (text? cs).map (Char.ofNat n :: ·)
  | '\\' :: c :: cs => (text? cs).map (unescape c :: ·)
  | c :: cs => (text? cs).map (c :: ·)

def escaped (c : Char) : List Char :=
  if c == '"' || c == '\\' then ['\\', c]
  else if c == '\x08' then ['\\', 'b']
  else if c == '\x0c' then ['\\', 'f']
  else if c == '\n' then ['\\', 'n']
  else if c == '\r' then ['\\', 'r']
  else if c == '\t' then ['\\', 't']
  else if c.toNat < 0x20 then ['\\', 'u', '0', '0', Hex.digit (c.toNat / 16), Hex.digit (c.toNat % 16)]
  else [c]

def writeText (s : String) : List Char := '"' :: (s.toList.flatMap escaped ++ ['"'])

/-! ### Numbers -/

/-- The text of a floating-point number that is not an integer held exactly: the fewest digits that read
    back, with a point unless the exponent is written out, which it is below `1e-5` and from `1e16` on. -/
def writeDecimal (d : Binary64.Decimal) : List Char :=
  let all := SplitterLaunch.Numeral.decimal d.digits
  let top : Int := d.exponent + all.length - 1
  let digits := (all.reverse.dropWhile (· == '0')).reverse
  if top < -5 ∨ 15 < top then
    let sign := if top < 0 then '-' else '+'
    let mantissa := match digits with
      | [] => []
      | [c] => [c]
      | c :: cs => c :: '.' :: cs
    mantissa ++ 'e' :: sign :: SplitterLaunch.Numeral.decimal top.natAbs
  else if top < 0 then '0' :: '.' :: (List.replicate (-top - 1).toNat '0' ++ digits)
  else
    let width := top.toNat + 1
    let whole := digits.take width ++ List.replicate (width - digits.length) '0'
    let rest := digits.drop width
    whole ++ '.' :: (if rest.isEmpty then ['0'] else rest)

/-- The text of a floating-point number; there is none but `null` for those that are not finite. -/
def writeBinary64 (x : Binary64) : List Char :=
  if !x.isFinite then ['n', 'u', 'l', 'l']
  else
    let magnitude := if x.isZero then ['0', '.', '0'] else writeDecimal x.shortest
    if x.isNegative then '-' :: magnitude else magnitude

def writeInteger (n : Int) : List Char :=
  if n < 0 then '-' :: SplitterLaunch.Numeral.decimal n.natAbs else SplitterLaunch.Numeral.decimal n.natAbs

def writeNumber : Number → List Char
  | .integer n => writeInteger n.toInt
  | .float x => writeBinary64 x

/-! ### Values -/

/-- What stands between the tokens of a written value: the start of the line of an item or bracket at a
    depth, and the space after a colon. -/
structure Layout where
  line : Nat → List Char
  afterColon : List Char

def Layout.compact : Layout := ⟨fun _ => [], []⟩

/-- A line for each item and member, indented by two spaces a level. -/
def Layout.pretty : Layout := ⟨fun depth => '\n' :: List.replicate (2 * depth) ' ', [' ']⟩

mutual

/-- The text of a value inside `depth` arrays and objects. -/
def write (l : Layout) (depth : Nat) : Json → List Char
  | .null => ['n', 'u', 'l', 'l']
  | .bool true => ['t', 'r', 'u', 'e']
  | .bool false => ['f', 'a', 'l', 's', 'e']
  | .number n => writeNumber n
  | .string s => writeText s
  | .array [] => ['[', ']']
  | .array (item :: items) => '[' :: (l.line (depth + 1) ++ write l (depth + 1) item ++ writeItems l depth items)
  | .object [] => ['\x7b', '\x7d']
  | .object ((key, item) :: members) =>
    '\x7b' :: (l.line (depth + 1) ++ writeText key ++ ':' :: l.afterColon ++ write l (depth + 1) item
      ++ writeMembers l depth members)

/-- The text of the further items of an array, up to its bracket. -/
def writeItems (l : Layout) (depth : Nat) : List Json → List Char
  | [] => l.line depth ++ [']']
  | item :: items => ',' :: (l.line (depth + 1) ++ write l (depth + 1) item ++ writeItems l depth items)

/-- The text of the further members of an object, up to its bracket. -/
def writeMembers (l : Layout) (depth : Nat) : List (String × Json) → List Char
  | [] => l.line depth ++ ['\x7d']
  | (key, item) :: members =>
    ',' :: (l.line (depth + 1) ++ writeText key ++ ':' :: l.afterColon ++ write l (depth + 1) item
      ++ writeMembers l depth members)

end

def compact (j : Json) : String := String.ofList (write .compact 0 j)

/-- The text with a line for each item and member. -/
def pretty (j : Json) : String := String.ofList (write .pretty 0 j)

mutual

/-- What a written value denotes, the members of its objects as they are written. -/
def written? : Source → Option Json
  | .null => some .null
  | .bool b => some (.bool b)
  | .number n => n.number?.map .number
  | .string s => (text? s).map fun cs => .string (String.ofList cs)
  | .array items => (writtenItems? items).map .array
  | .object members => (writtenMembers? members).map .object

def writtenItems? : List Source → Option (List Json)
  | [] => some []
  | item :: items => do return (← written? item) :: (← writtenItems? items)

def writtenMembers? : List (List Char × Source) → Option Members
  | [] => some []
  | (key, item) :: members => do
    return (String.ofList (← text? key), ← written? item) :: (← writtenMembers? members)

end

mutual

/-- The value with the members of each object in the order of their names; of several of one name the last
    counts. -/
def sorted : Json → Json
  | .array items => .array (sortedItems items)
  | .object members => .object (Members.ofList (sortedMembers members))
  | j => j

def sortedItems : List Json → List Json
  | [] => []
  | item :: items => sorted item :: sortedItems items

/-- The members as they are written, each with its value sorted. -/
def sortedMembers : Members → Members
  | [] => []
  | (key, item) :: members => (key, sorted item) :: sortedMembers members

end

def ofSource? (source : Source) : Option Json := (written? source).map sorted

/-- The greatest number of levels that may be nested. -/
def maxDepth : Nat := 127

/-- What a value inside `level` arrays and objects denotes, the members of its objects as they are written. -/
def writtenInside? (level : Nat) (source : Source) : Option Json :=
  if source.depth + level ≤ maxDepth then written? source else none

def read? (cs : List Char) : Option Json :=
  (Source.read? cs).bind fun source => if source.depth ≤ maxDepth then ofSource? source else none

end Json
end SplitterLaunch
