import SplitterLaunch.Json
import SplitterLaunch.Text.Hex

/-! The tokens of JSON text. A string token holds the characters between the quotes, escapes and all; they
    must be well formed but need not denote a text. A number token is split into its parts. -/

namespace SplitterLaunch
namespace Json

inductive Token where
  | openArray
  | closeArray
  | openObject
  | closeObject
  | comma
  | colon
  | null
  | bool (b : Bool)
  | number (n : Numeral)
  | string (body : List Char)
deriving DecidableEq, Repr

/-- Whether the character may stand between tokens. -/
def isSpace (c : Char) : Bool := c == ' ' || c == '\n' || c == '\t' || c == '\r'

/-- Whether the character alone may follow a backslash. -/
def isEscape (c : Char) : Bool :=
  c == '"' || c == '\\' || c == '/' || c == 'b' || c == 'f' || c == 'n' || c == 'r' || c == 't'

/-- The rest of a string up to its closing quote, and what comes after the quote. -/
def stringBody? : List Char → Option (List Char × List Char)
  | [] => none
  | '"' :: cs => some ([], cs)
  | '\\' :: 'u' :: a :: b :: c :: d :: cs =>
    if [a, b, c, d].all Hex.isDigit then
      (stringBody? cs).map fun (body, rest) => ('\\' :: 'u' :: a :: b :: c :: d :: body, rest)
    else none
  | '\\' :: c :: cs =>
    if isEscape c then (stringBody? cs).map fun (body, rest) => ('\\' :: c :: body, rest) else none
  | c :: cs =>
    if c.toNat < 0x20 || c == '\\' then none
    else (stringBody? cs).map fun (body, rest) => (c :: body, rest)

namespace Numeral

/-- The digits before the point: one zero, or digits that do not start with one. -/
def whole? (cs : List Char) : Option (List Char × List Char) :=
  let digits := cs.takeWhile Char.isDigit
  if digits.isEmpty || (digits.head? == some '0' && digits.length != 1) then none
  else some (digits, cs.dropWhile Char.isDigit)

/-- At least one digit after a point, or nothing if no point comes. -/
def fraction? : List Char → Option (Option (List Char) × List Char)
  | '.' :: cs =>
    let digits := cs.takeWhile Char.isDigit
    if digits.isEmpty then none else some (some digits, cs.dropWhile Char.isDigit)
  | cs => some (none, cs)

/-- A sign, and what comes after it. -/
def sign : List Char → Bool × List Char
  | '-' :: cs => (true, cs)
  | '+' :: cs => (false, cs)
  | cs => (false, cs)

/-- At least one digit after the letter `e` and at most one sign, or nothing if no such letter comes. -/
def exponent? : List Char → Option (Option (Bool × List Char) × List Char)
  | [] => some (none, [])
  | e :: cs =>
    if e == 'e' || e == 'E' then
      let (negative, cs) := sign cs
      let digits := cs.takeWhile Char.isDigit
      if digits.isEmpty then none else some (some (negative, digits), cs.dropWhile Char.isDigit)
    else some (none, e :: cs)

def read? (cs : List Char) : Option (Numeral × List Char) := do
  let (negative, cs) := match cs with
    | '-' :: cs => (true, cs)
    | cs => (false, cs)
  let (whole, cs) ← whole? cs
  let (fraction, cs) ← fraction? cs
  let (exponent, cs) ← exponent? cs
  return (⟨negative, whole, fraction, exponent⟩, cs)

end Numeral

/-- What comes after a word at the start of a text. -/
def afterWord? (word cs : List Char) : Option (List Char) :=
  if word.isPrefixOf cs then some (cs.drop word.length) else none

/-- The token that a character starts, and what comes after it. -/
def token? (c : Char) (cs : List Char) : Option (Token × List Char) :=
  if c == '[' then some (.openArray, cs)
  else if c == ']' then some (.closeArray, cs)
  else if c == '\x7b' then some (.openObject, cs)
  else if c == '\x7d' then some (.closeObject, cs)
  else if c == ',' then some (.comma, cs)
  else if c == ':' then some (.colon, cs)
  else if c == '"' then (stringBody? cs).map fun (body, rest) => (.string body, rest)
  else if c == 'n' then (afterWord? ['u', 'l', 'l'] cs).map fun rest => (.null, rest)
  else if c == 't' then (afterWord? ['r', 'u', 'e'] cs).map fun rest => (.bool true, rest)
  else if c == 'f' then (afterWord? ['a', 'l', 's', 'e'] cs).map fun rest => (.bool false, rest)
  else (Numeral.read? (c :: cs)).map fun (n, rest) => (.number n, rest)

/-- The tokens of a text of at most `fuel` characters, up to the first place where none stands, and whether
    that place is the end of the text. -/
def tokensWithin : Nat → List Char → List Token × Bool
  | _, [] => ([], true)
  | 0, _ :: _ => ([], false)
  | fuel + 1, c :: cs =>
    if isSpace c then tokensWithin fuel cs
    else match token? c cs with
      | none => ([], false)
      | some (token, rest) =>
        let (tokens, ended) := tokensWithin fuel rest
        (token :: tokens, ended)

/-- The tokens of a text, up to the first place where none stands, and whether that place is its end. -/
def tokens (cs : List Char) : List Token × Bool := tokensWithin cs.length cs

end Json
end SplitterLaunch
