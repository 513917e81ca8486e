/-! Labels of domain names in ASCII letters (Punycode, RFC 3492). The ASCII characters of a label come first,
    then, after a hyphen, where and which others are to be put in, in the order of their code points: for each
    a number that counts the places passed since the last one, in digits of which the first that is small
    enough is the last. -/

namespace SplitterLaunch
namespace Punycode

/-- The letter or digit with a value below 36. -/
def digit (n : Nat) : Char := if n < 26 then Char.ofNat (0x61 + n) else Char.ofNat (0x30 + (n - 26))

def value? (c : Char) : Option Nat :=
  if 0x61 ≤ c.toNat ∧ c.toNat ≤ 0x7A then some (c.toNat - 0x61)
  else if 0x30 ≤ c.toNat ∧ c.toNat ≤ 0x39 then some (c.toNat - 0x30 + 26)
  else none

/-- The least value of a digit after which more digits come. It depends on the place of the digit, counted in
    steps of 36, and on a bias. -/
def threshold (place bias : Nat) : Nat :=
  if place ≤ bias then 1 else if bias + 26 ≤ place then 26 else place - bias

theorem one_le_threshold (place bias : Nat) : 1 ≤ threshold place bias := by
  unfold threshold
  split
  · omega
  · split <;> omega

def biasOf (n : Nat) : Nat := if 455 < n then biasOf (n / 35) + 36 else 36 * n / (n + 38)
termination_by n
decreasing_by omega

/-- The bias after a number was written or read, of which `count` characters are in the label then. -/
def adapt (n count : Nat) (isFirst : Bool) : Nat :=
  let n := if isFirst then n / 700 else n / 2
  biasOf (n + n / count)

/-- The digits of a number, from a place on. -/
def encodeNumber (bias place n : Nat) : List Char :=
  let t := threshold place bias
  if n < t then [digit n]
  else digit (t + (n - t) % (36 - t)) :: encodeNumber bias (place + 36) ((n - t) / (36 - t))
termination_by n
decreasing_by
  have h1 := one_le_threshold place bias
  have h2 : (n - threshold place bias) / (36 - threshold place bias) ≤ n - threshold place bias := Nat.div_le_self _ _
  omega

/-- A label part way through being written or read. -/
structure Progress where
  /-- The number of places passed. -/
  passed : Nat
  bias : Nat
  /-- The number of characters that have been put in, the ASCII ones included. -/
  count : Nat

/-- Writes where a code point is to be put in, for one character of the label after another. -/
def encodePoint (ascii point : Nat) : Progress → List Char → List Char × Progress
  | p, [] => ([], p)
  | p, c :: cs =>
    if c.toNat < point then encodePoint ascii point { p with passed := p.passed + 1 } cs
    else if c.toNat = point then
      let digits := encodeNumber p.bias 36 p.passed
      let (rest, last) := encodePoint ascii point ⟨0, adapt p.passed (p.count + 1) (p.count == ascii), p.count + 1⟩ cs
      (digits ++ rest, last)
    else encodePoint ascii point p cs

/-- Writes where these code points, from the least on, are to be put in. All below `next` have been. -/
def encodePoints (ascii : Nat) (label : List Char) : Nat → Progress → List Nat → List Char
  | _, _, [] => []
  | next, p, point :: points =>
    let (digits, p) :=
      encodePoint ascii point { p with passed := p.passed + (point - next) * (p.count + 1) } label
    digits ++ encodePoints ascii label (point + 1) { p with passed := p.passed + 1 } points

/-- The code points in order, each once. -/
def inOrder (points : List Nat) : List Nat := (points.mergeSort fun m n => m ≤ n).eraseReps

def encode (label : List Char) : List Char :=
  let ascii := label.filter fun c => c.toNat < 0x80
  let others := inOrder ((label.map Char.toNat).filter fun n => 0x80 ≤ n)
  ascii ++ (if ascii.isEmpty then [] else ['-'])
    ++ encodePoints ascii.length label 0x80 ⟨0, 72, ascii.length⟩ others

def bound : Nat := 0x100000000

/-- A number at the start of a text from a place on, each digit worth `weight`, added to `sum`; and the rest. -/
def decodeNumber? (bias place weight sum : Nat) : List Char → Option (Nat × List Char)
  | [] => none
  | c :: cs => do
    let v ← value? c
    let sum := sum + v * weight
    let t := threshold place bias
    if bound ≤ sum then none
    else if v < t then return (sum, cs)
    else if bound ≤ weight * (36 - t) then none
    else decodeNumber? bias (place + 36) (weight * (36 - t)) sum cs

/-- Puts characters into a label as a text of at most `fuel` characters tells; `point` is the code point of
    the last one. -/
def decodePoints? : Nat → Nat → Progress → List Char → List Char → Option (List Char)
  | _, _, _, label, [] => some label
  | 0, _, _, _, _ => none
  | fuel + 1, point, p, label, cs => do
    let (passed, rest) ← decodeNumber? p.bias 36 1 p.passed cs
    let count := label.length + 1
    let point := point + passed / count
    let place := passed % count
    if point.isValidChar then
      decodePoints? fuel point ⟨place + 1, adapt (passed - p.passed) count (p.passed == 0), count⟩
        (label.take place ++ Char.ofNat point :: label.drop place) rest
    else none

/-- The label that a text of ASCII characters stands for. -/
def decode? (text : List Char) : Option (List Char) :=
  let reversed := text.reverse
  let rest := (reversed.takeWhile (· ≠ '-')).reverse
  let ascii := ((reversed.dropWhile (· ≠ '-')).drop 1).reverse
  if rest.length < text.length ∧ ascii.isEmpty then none
  else decodePoints? rest.length 0x80 ⟨0, 72, ascii.length⟩ ascii rest

end Punycode
end SplitterLaunch
