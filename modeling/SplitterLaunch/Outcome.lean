/-! How a computation ends. It answers, it fails with a reason that is reported to the user, or it crashes:
    it is cut short without a report of its own. Keeping the two bad ends apart makes "never crashes" a
    statement about values. -/

namespace SplitterLaunch

/-- An end without an answer. -/
inductive Stop (ε : Type) where
  | failed (reason : ε)
  | crashed
deriving DecidableEq, Repr

namespace Stop

def map {ε δ : Type} (f : ε → δ) : Stop ε → Stop δ
  | .failed reason => .failed (f reason)
  | .crashed => .crashed

end Stop

/-- An answer, or an end without one. -/
abbrev Outcome (ε α : Type) := Except (Stop ε) α

namespace Outcome
variable {ε δ α : Type}

def fail (reason : ε) : Outcome ε α := .error (.failed reason)

def crash : Outcome ε α := .error .crashed

/-- The same outcome with its reason seen as another. -/
def mapReason (f : ε → δ) : Outcome ε α → Outcome δ α := Except.mapError (Stop.map f)

def ofExcept : Except ε α → Outcome ε α := Except.mapError Stop.failed

theorem mapError_eq_ok_iff {f : ε → δ} {x : Except ε α} {a : α} : x.mapError f = .ok a ↔ x = .ok a := by
  cases x with
  | error stop => exact ⟨nofun, nofun⟩
  | ok b => exact ⟨fun h => by cases h; rfl, fun h => by cases h; rfl⟩

theorem mapReason_eq_ok_iff {f : ε → δ} {x : Outcome ε α} {a : α} : x.mapReason f = .ok a ↔ x = .ok a :=
  mapError_eq_ok_iff

theorem mapReason_eq_crash_iff {f : ε → δ} {x : Outcome ε α} :
    x.mapReason f = .error .crashed ↔ x = .error .crashed := by
  cases x with
  | error stop =>
    cases stop with
    | failed reason => exact ⟨nofun, nofun⟩
    | crashed => exact ⟨fun _ => rfl, fun _ => rfl⟩
  | ok b => exact ⟨nofun, nofun⟩

theorem ofExcept_ne_crash (x : Except ε α) : ofExcept x ≠ .error .crashed := by
  cases x <;> exact nofun

theorem ofExcept_eq_ok_iff {x : Except ε α} {a : α} : ofExcept x = .ok a ↔ x = .ok a := mapError_eq_ok_iff

theorem bind_eq_ok_iff {β : Type} {x : Except ε α} {f : α → Except ε β} {b : β} :
    x >>= f = .ok b ↔ ∃ a, x = .ok a ∧ f a = .ok b := by
  cases x with
  | error reason => simp [bind, Except.bind]
  | ok a => simp [bind, Except.bind]

theorem bind_eq_error_iff {β : Type} {x : Except ε α} {f : α → Except ε β} {reason : ε} :
    x >>= f = .error reason ↔ x = .error reason ∨ ∃ a, x = .ok a ∧ f a = .error reason := by
  cases x with
  | error other => simp [bind, Except.bind]
  | ok a => simp [bind, Except.bind]

theorem bind_eq_crash_iff {β : Type} {x : Outcome ε α} {f : α → Outcome ε β} :
    x >>= f = .error .crashed ↔ x = .error .crashed ∨ ∃ a, x = .ok a ∧ f a = .error .crashed := bind_eq_error_iff

theorem bind_eq_crash_iff_of_ne {β : Type} {x : Outcome ε α} {f : α → Outcome ε β} (h : x ≠ .error .crashed) :
    x >>= f = .error .crashed ↔ ∃ a, x = .ok a ∧ f a = .error .crashed := by
  rw [bind_eq_crash_iff, or_iff_right h]

end Outcome
end SplitterLaunch
