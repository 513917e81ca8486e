import SplitterLaunch.Json

/-! A lower and an upper bound, which are one value where they agree. -/

namespace SplitterLaunch

/-- One value, or a lower and an upper one. -/
inductive Bounds (α : Type) where
  | exact (value : α)
  | range (lower upper : α)
deriving DecidableEq, Repr

namespace Bounds
variable {α β ε : Type}

/-- The bounds with these ends, exact if the ends are equal. -/
def between [DecidableEq α] (lower upper : α) : Bounds α :=
  if lower = upper then .exact upper else .range lower upper

def lower : Bounds α → α
  | .exact value => value
  | .range lower _ => lower

def upper : Bounds α → α
  | .exact value => value
  | .range _ upper => upper

def isExact : Bounds α → Bool
  | .exact _ => true
  | .range _ _ => false

def map (f : α → β) : Bounds α → Bounds β
  | .exact value => .exact (f value)
  | .range lower upper => .range (f lower) (f upper)

/-- Bounds of the same kind with other ends, or the first failure, that of the lower end before that of
    the upper one. -/
def tryMap (f : α → Except ε β) : Bounds α → Except ε (Bounds β)
  | .exact value => return .exact (← f value)
  | .range lower upper => do
    let lower ← f lower
    let upper ← f upper
    return .range lower upper

/-- The value under `exact`, or both ends under `range`. -/
def toJson (f : α → Json) : Bounds α → Json
  | .exact value => .object [("exact", f value)]
  | .range lower upper => .object [("range", .object [("lower", f lower), ("upper", f upper)])]

theorem lower_between [DecidableEq α] (a b : α) : (between a b).lower = a := by
  unfold between
  split
  · rename_i h; exact h.symm
  · rfl

theorem upper_between [DecidableEq α] (a b : α) : (between a b).upper = b := by
  unfold between
  split <;> rfl

theorem isExact_between [DecidableEq α] {a b : α} : (between a b).isExact = true ↔ a = b := by
  unfold between
  split <;> simp_all [isExact]

theorem isExact_map (f : α → β) (x : Bounds α) : (x.map f).isExact = x.isExact := by
  cases x <;> rfl

end Bounds
end SplitterLaunch
