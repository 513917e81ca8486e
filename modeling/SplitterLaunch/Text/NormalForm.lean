import SplitterLaunch.Text.NormalForm.Table

/-! The normal form of a text, in which characters that are the same to a reader are the same code points
    (normalization form C of Unicode): everything is taken apart, marks are put in the order of their classes,
    and then neighbours are put together where there is a character for them. -/

namespace SplitterLaunch
namespace Text

/-- The class of a mark, or 0 for other characters. -/
def markClass (c : Char) : Nat := ((markClasses.find? fun entry => Span.mem c entry.2).map (·.1)).getD 0

/-! ### Korean syllables

A syllable is a leading consonant, a vowel and perhaps a trailing consonant, of which there are 19, 21 and
27, in the order of the code points. -/

def firstSyllable : Nat := 0xAC00
def firstLeading : Nat := 0x1100
def firstVowel : Nat := 0x1161

/-- The code point before the first trailing consonant. -/
def beforeTrailing : Nat := 0x11A7

def letters? (c : Char) : Option (List Char) :=
  if firstSyllable ≤ c.toNat ∧ c.toNat < firstSyllable + 11172 then
    let n := c.toNat - firstSyllable
    let start := [Char.ofNat (firstLeading + n / 588), Char.ofNat (firstVowel + n % 588 / 28)]
    some (if n % 28 = 0 then start else start ++ [Char.ofNat (beforeTrailing + n % 28)])
  else none

/-- The syllable that a leading consonant and a vowel make, or a syllable without a trailing consonant and
    such a consonant. -/
def syllable? (a b : Char) : Option Char :=
  if firstLeading ≤ a.toNat ∧ a.toNat < firstLeading + 19 ∧ firstVowel ≤ b.toNat ∧ b.toNat < firstVowel + 21 then
    some (Char.ofNat (firstSyllable + ((a.toNat - firstLeading) * 21 + (b.toNat - firstVowel)) * 28))
  else if firstSyllable ≤ a.toNat ∧ a.toNat < firstSyllable + 11172 ∧ (a.toNat - firstSyllable) % 28 = 0
      ∧ beforeTrailing < b.toNat ∧ b.toNat < beforeTrailing + 28 then
    some (Char.ofNat (a.toNat + (b.toNat - beforeTrailing)))
  else none

/-! ### Taking apart -/

def parts? (c : Char) : Option (List Char) :=
  if c.toNat < 0xC0 then none
  else (letters? c).or ((Rewriting.find? c compositions).or (Rewriting.find? c replacements))

/-- The characters that a character is taken apart into, in as many steps as allowed. -/
def takeApartWithin : Nat → Char → List Char
  | 0, c => [c]
  | steps + 1, c =>
    match parts? c with
    | some cs => cs.flatMap (takeApartWithin steps)
    | none => [c]

/-- The characters that a character is taken apart into. No character takes more than four steps. -/
def takeApart (c : Char) : List Char := takeApartWithin 4 c

/-! ### Order of marks -/

abbrev Classed := Char × Nat

/-- Puts a mark in front of a text in order, behind marks of lower classes. -/
def insertMark (m : Classed) : List Classed → List Classed
  | [] => [m]
  | n :: ns => if n.2 ≠ 0 ∧ n.2 < m.2 then n :: insertMark m ns else m :: n :: ns

/-- Puts marks in the order of their classes; marks of one class stay in the order in which they stand. -/
def orderMarks : List Classed → List Classed
  | [] => []
  | m :: ms => if m.2 = 0 then m :: orderMarks ms else insertMark m (orderMarks ms)

/-! ### Putting together -/

def together? (a b : Char) : Option Char :=
  (syllable? a b).or
    ((compositions.find? fun r => r.target == [a.toNat, b.toNat]).map fun r => Char.ofNat r.span.first)

/-- Puts characters together with `base`, the marks since which are in `between`, the latest first. Marks of
    the same class or a higher one keep a character from its base. -/
def putTogetherFrom (base : Char) (between : List Classed) : List Classed → List Char
  | [] => base :: (between.map (·.1)).reverse
  | m :: ms =>
    let isNear := match between with
      | [] => true
      | n :: _ => n.2 < m.2
    match if isNear then together? base m.1 else none with
    | some c => putTogetherFrom c between ms
    | none =>
      if m.2 = 0 then base :: (between.map (·.1)).reverse ++ putTogetherFrom m.1 [] ms
      else putTogetherFrom base (m :: between) ms

/-- Puts characters together; marks at the start have no base. -/
def putTogether : List Classed → List Char
  | [] => []
  | m :: ms => if m.2 = 0 then putTogetherFrom m.1 [] ms else m.1 :: putTogether ms

def normalForm (cs : List Char) : List Char :=
  putTogether (orderMarks ((cs.flatMap takeApart).map fun c => (c, markClass c)))

end Text
end SplitterLaunch
