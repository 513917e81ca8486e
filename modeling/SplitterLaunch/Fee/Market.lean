import SplitterLaunch.Fee

/-! Fees on a chain with a fee market, estimated from the base fee of the latest block and from the rewards
    that recent blocks paid. The maximum fee leaves room for the base fee to rise, the more the lower it is.
    The rewards count only while the base fee is high: their median, from the place on where they jump. -/

namespace SplitterLaunch
namespace FeeMarket

/-- A number of gwei, in the smallest unit. -/
def gwei (n : Nat) : Nat := n * 1000000000

def busyBaseFee : Nat := gwei 100

def leastPriority : Quantity := ⟨gwei 3, by decide⟩

/-- The highest base fee that is provided for, in tenths of the base fee. -/
def surgeTenths (baseFee : Nat) : Nat :=
  if baseFee ≤ gwei 40 then 20 else if baseFee ≤ gwei 100 then 16 else if baseFee ≤ gwei 200 then 14 else 12

/-- The highest base fee that is provided for, unless the computation leaves the range of quantities. -/
def surged? (baseFee : Quantity) : Option Quantity :=
  (Quantity.ofNat? (baseFee.toNat * surgeTenths baseFee.toNat)).map fun q =>
    ⟨q.toNat / 10, Nat.lt_of_le_of_lt (Nat.div_le_self _ _) q.toNat_lt⟩

/-- The relative growth from each number of a list to the next, in percent. -/
def growths (xs : List Nat) : List Nat := List.zipWith (fun a b => (b - a) * 100 / a) xs xs.tail

/-- The growth, in percent, from which on it is a jump. -/
def jumpGrowth : Nat := 200

/-- The numbers from their greatest growth on, if that is a jump in the upper half of the list; else all of
    them. -/
def fromJump (xs : List Nat) : List Nat :=
  match (growths xs).max? with
  | none => xs
  | some growth =>
    let place := (growths xs).idxOf growth
    if jumpGrowth ≤ growth ∧ xs.length / 2 ≤ place then xs.drop place else xs

def middle? (xs : List Nat) : Option Nat := xs[xs.length / 2]?

/-- The bound on rewards, and on the percentages of their differences. -/
def rewardBound : Nat := Quantity.bound / 2

/-- Whether the growths of these rewards, in order, can be computed within the bound. -/
def isComputable (rewards : List Nat) : Bool :=
  match rewards.head?, rewards.getLast? with
  | some least, some greatest => decide (greatest < rewardBound ∧ (greatest - least) * 100 < rewardBound)
  | _, _ => true

/-- The reward that is typical of recent blocks; zero rewards do not count. Rewards out of bounds have no
    typical one. -/
def typicalReward? (rewards : List Nat) : Option Nat :=
  match (rewards.filter (0 < ·)).mergeSort (· ≤ ·) with
  | [] => some 0
  | [reward] => some reward
  | sorted => if isComputable sorted then middle? (fromJump sorted) else none

/-- The priority fee for a base fee, given the rewards of recent blocks. -/
def priority? (baseFee : Quantity) (rewards : List (List Quantity)) : Option Quantity :=
  if baseFee.toNat < busyBaseFee then some leastPriority
  else do
    let first ← rewards.mapM List.head?
    let typical ← typicalReward? (first.map Quantity.toNat)
    Quantity.ofNat? (max typical leastPriority.toNat)

/-- The fees for a base fee, given the rewards of recent blocks. A priority fee above the maximum is added
    to it. -/
def fees? (baseFee : Quantity) (rewards : List (List Quantity)) : Option Fees := do
  let priority ← priority? baseFee rewards
  let surged ← surged? baseFee
  let maxFee ← if surged.toNat < priority.toNat then priority.add? surged else some surged
  return ⟨maxFee, priority⟩

end FeeMarket
end SplitterLaunch
