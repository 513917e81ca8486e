import SplitterLaunch.Outcome
import SplitterLaunch.Quantity
import SplitterLaunch.Text.Blank
import SplitterLaunch.Text.Bytes
import SplitterLaunch.Text.Quoted

/-! Reading a fee that is given in gwei. Blanks around the text and underscores in it do not count, nine
    decimals are kept and further ones dropped. A sign is refused at the start of the text, yet one that
    only comes to the front when underscores are dropped is read: the amount is then the two's complement
    of its absolute value. -/

namespace SplitterLaunch
namespace Gwei

def exponent : Nat := 9

/-- What is wrong with the number in a text. The last two are told of a number with a sign. -/
inductive NumberFault where
  | notDigit
  | tooLarge
  | signedNotDigit
  | signedTooLarge
deriving DecidableEq, Repr

def NumberFault.message : NumberFault → String
  | .notDigit => Quantity.faultMessage .notDigit
  | .tooLarge => Quantity.faultMessage .tooLarge
  | .signedNotDigit => Numeral.Fault.notDigit.message
  | .signedTooLarge => "number does not fit in 256-bit integer"

/-- Why a text is refused as a fee. -/
inductive Fault where
  | negative (text : String)
  | malformed (text : String) (cause : NumberFault)
deriving DecidableEq, Repr

def Fault.message : Fault → String
  | .negative text => "fee must not be negative: " ++ text
  | .malformed text cause => "invalid gwei amount " ++ Text.quoted text ++ ": " ++ cause.message

/-- A number split at its first point: the digits without the point, cut after the decimals that count,
    and the power of ten that is missing. -/
structure Scaled where
  digits : List Char
  missing : Nat
deriving DecidableEq, Repr

/-- Splits a number at its first point. Decimals are counted in bytes, and the cut after the last one that
    counts must not fall inside a character. -/
def Scaled.ofText? (cs : List Char) : Option Scaled :=
  let whole := cs.takeWhile (· ≠ '.')
  let decimals := (cs.dropWhile (· ≠ '.')).drop 1
  (Text.takeBytes? exponent decimals).map fun kept => ⟨whole ++ kept, exponent - Text.byteLength decimals⟩

/-- The amount of a number with a minus sign, as two's complement. -/
def readNegative (missing : Nat) (digits : List Char) : Except NumberFault Quantity :=
  if digits.isEmpty then .ok Quantity.zero
  else match Numeral.scan Quantity.bound digits with
    | .error .tooLarge => .error .signedTooLarge
    | .error _ => .error .signedNotDigit
    | .ok n => if 0 < n ∧ n ≤ Quantity.bound / 2 then .ok (Quantity.wrap (-(n * Nat.pow 10 missing))) else .error .signedTooLarge

/-- The amount of a number without a sign. There is no answer when only the missing power of ten takes it
    out of the range. -/
def readUnsigned (missing : Nat) (digits : List Char) : Outcome NumberFault Quantity :=
  match Numeral.scan Quantity.bound digits with
  | .error .tooLarge => .fail .tooLarge
  | .error _ => .fail .notDigit
  | .ok n =>
    match Quantity.ofNat? (n * Nat.pow 10 missing) with
    | some amount => .ok amount
    | none => .crash

/-- The amount of a number, which may start with a minus sign. -/
def readNumber : List Char → Outcome NumberFault Quantity
  | '-' :: cs =>
    match Scaled.ofText? cs with
    | some number => .ofExcept (readNegative number.missing number.digits)
    | none => .crash
  | cs =>
    match Scaled.ofText? cs with
    | some number => readUnsigned number.missing number.digits
    | none => .crash

def read (s : String) : Outcome Fault Quantity :=
  let text := Text.trim s.toList
  if text.head? = some '-' then .fail (.negative (String.ofList text))
  else (readNumber (text.filter (· ≠ '_'))).mapReason (.malformed (String.ofList text))

end Gwei
end SplitterLaunch
