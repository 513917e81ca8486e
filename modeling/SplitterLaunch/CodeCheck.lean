import SplitterLaunch.Chain

/-! Comparing the code of a contract on a chain with the code it was compiled to. -/

namespace SplitterLaunch

/-- The result of a comparison. -/
inductive CodeCheck where
  | matching
  | noCode
  | differing (deployedLength expectedLength : Nat) (firstMismatch : Option Nat)
deriving DecidableEq, Repr

namespace CodeCheck

/-- Whether there is code and it is the expected one. -/
def isMatch : CodeCheck → Bool
  | .matching => true
  | _ => false

/-- The first position at which two byte strings have different bytes. -/
def firstMismatch : List UInt8 → List UInt8 → Option Nat
  | d :: ds, e :: es => if d = e then (firstMismatch ds es).map (· + 1) else some 0
  | _, _ => none

/-- Compares the code on the chain with the expected one. -/
def compare (deployed expected : List UInt8) : CodeCheck :=
  if deployed.isEmpty then .noCode
  else if deployed = expected then .matching
  else .differing deployed.length expected.length (firstMismatch deployed expected)

/-- Compares the code at an address of a chain with the expected one. -/
def run {m : Type → Type} [Monad m] (chain : Chain (ExceptT (Stop Failure) m)) (address : Address)
    (expected : List UInt8) : ExceptT (Stop Failure) m CodeCheck := do
  return compare (← chain.code address) expected

end CodeCheck
end SplitterLaunch
