import SplitterLaunch.Text.Hex

/-! Tables of characters in a compact form. A table is a text of words between blanks, and a word tells code
    points in hexadecimal: `41` one, `41-5A` all from one to another, `100=12E` every second one. After a
    colon stands what the characters are rewritten to: several code points between dots, or a single one for
    the first character and those after it for the others. -/

namespace SplitterLaunch
namespace Text

/-- Code points from one to another in equal steps. -/
structure Span where
  first : Nat
  last : Nat
  step : Nat

namespace Span

/-- How far a code point is from the first one, if it belongs to the others. -/
def offset? (s : Span) (n : Nat) : Option Nat :=
  if s.first ≤ n ∧ n ≤ s.last ∧ (n - s.first) % s.step = 0 then some (n - s.first) else none

/-- Whether the character belongs to one of the spans. -/
def mem (c : Char) (spans : List Span) : Bool := spans.any fun s => (s.offset? c.toNat).isSome

def read? (word : List Char) : Option Span := do
  let first ← Hex.number? (word.takeWhile Hex.isDigit)
  match word.dropWhile Hex.isDigit with
  | [] => return ⟨first, first, 1⟩
  | sign :: last => return ⟨first, ← Hex.number? last, if sign = '=' then 2 else 1⟩

end Span

/-- Characters that are rewritten, and the code points that they are rewritten to. -/
structure Rewriting where
  span : Span
  target : List Nat

namespace Rewriting

/-- The code points that one of the characters is rewritten to. -/
def rewrite? (r : Rewriting) (n : Nat) : Option (List Nat) :=
  (r.span.offset? n).map fun offset =>
    match r.target with
    | [m] => [m + offset]
    | ms => ms

/-- What a character is rewritten to, if one of the rewritings is about it. -/
def find? (c : Char) (rewritings : List Rewriting) : Option (List Char) :=
  (rewritings.findSome? (rewrite? · c.toNat)).map fun ms => ms.map Char.ofNat

def read? (word : List Char) : Option Rewriting := do
  let target := (word.dropWhile (· ≠ ':')).drop 1
  return ⟨← Span.read? (word.takeWhile (· ≠ ':')),
    ← ((target.splitOn '.').filter (!·.isEmpty)).mapM Hex.number?⟩

end Rewriting

def words (text : String) : List (List Char) :=
  (((text.toList.map fun c => if c = '\n' then ' ' else c)).splitOn ' ').filter (!·.isEmpty)

def spans (text : String) : List Span := (words text).filterMap Span.read?

def rewritings (text : String) : List Rewriting := (words text).filterMap Rewriting.read?

end Text
end SplitterLaunch
