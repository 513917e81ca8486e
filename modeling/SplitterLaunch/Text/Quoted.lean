import SplitterLaunch.Text.Hex
import SplitterLaunch.Text.Printable

/-! Quoted text, as messages show a text that somebody typed: between double quotes, with a backslash before
    quotes and backslashes, short escapes for the commonest control characters, and the code point in braces
    for every other character that would not show. -/

namespace SplitterLaunch
namespace Text

def escaped (c : Char) : List Char :=
  if c = '\x00' then ['\\', '0']
  else if c = '\t' then ['\\', 't']
  else if c = '\r' then ['\\', 'r']
  else if c = '\n' then ['\\', 'n']
  else if c = '"' ∨ c = '\\' then ['\\', c]
  else if isPrintable c then [c]
  else ['\\', 'u', '\x7b'] ++ Nat.toDigits 16 c.toNat ++ ['\x7d']

/-- The text between quotes, with escapes. -/
def quoted (s : String) : String := String.ofList ('"' :: (s.toList.flatMap escaped ++ ['"']))

/-- A single character between single quotes, which are then escaped in place of double ones. -/
def quotedChar (c : Char) : String :=
  let shown := if c = '"' then [c] else if c = '\x27' then ['\\', c] else escaped c
  String.ofList ('\x27' :: (shown ++ ['\x27']))

end Text
end SplitterLaunch
