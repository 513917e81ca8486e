import SplitterLaunch.Url.Domain.Direction
import SplitterLaunch.Url.Domain.Joiner
import SplitterLaunch.Url.Domain.Punycode
import SplitterLaunch.Url.Domain.Table

/-! Domain names of all scripts, and their form in ASCII. A name is rewritten so that names that look the same
    are the same, and each of its labels that is not in ASCII then is spelled in ASCII letters behind a mark
    (Unicode Technical Standard 46, without the rules on hyphens and lengths). -/

namespace SplitterLaunch
namespace Domain

/-- The characters before a label that is spelled in ASCII letters. -/
def mark : List Char := ['x', 'n', '-', '-']

/-- What a character in a domain name stands for; there is nothing for one that may not be in it. -/
def rewrite? (c : Char) : Option (List Char) :=
  if c.toNat < 0x80 then some [c.toLower]
  else if Text.Span.mem c disallowed then none
  else some ((Text.Rewriting.find? c rewritings).getD [c])

def isPlain (c : Char) : Bool := rewrite? c == some [c]

/-- The most characters of a label that is spelled in ASCII letters, and of its spelling. -/
def labelBound : Nat := 1000

def spellingBound : Nat := 2000

/-- Whether a label may be spelled in ASCII letters. -/
def isSpellable (label : List Char) : Bool :=
  label.length ≤ labelBound && !(label.head?.any (Text.Span.mem · marks)) && joinersFit [] label

/-- The label that a label of a rewritten name stands for: a spelling in ASCII letters stands for a label
    that is not in ASCII and that rewriting leaves as it is. -/
def meaning? (label : List Char) : Option (List Char) :=
  if mark.isPrefixOf label then do
    let spelling := label.drop mark.length
    if spelling.length ≤ spellingBound then
      let meant ← Punycode.decode? spelling
      if meant.any (fun c => 0x80 ≤ c.toNat) && meant.all isPlain && Text.normalForm meant == meant
          && isSpellable meant then
        return meant
      else none
    else none
  else if label.all fun c => c.toNat < 0x80 then some label
  else if isSpellable label then some label
  else none

def spell (label : List Char) : List Char :=
  if label.all fun c => c.toNat < 0x80 then label else mark ++ Punycode.encode label

/-- The form of a domain name in ASCII. None of its characters may be `forbidden`. -/
def toAscii? (forbidden : Char → Bool) (name : List Char) : Option (List Char) := do
  let rewritten := Text.normalForm (← name.mapM rewrite?).flatten
  let meant ← (rewritten.splitOn '.').mapM meaning?
  if meant.any (·.any forbidden) || !areDirected meant then none
  else return ['.'].intercalate (meant.map spell)

end Domain
end SplitterLaunch
