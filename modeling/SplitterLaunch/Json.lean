import SplitterLaunch.Binary64
import SplitterLaunch.Text.Order

/-! JSON as trees. A tree is read in two steps: a `Source` keeps strings and numbers as they are written,
    and a `Json` holds the texts and numbers that they denote. In between lie the rules on which written
    forms denote anything at all, on how deep values may be nested, and on which of several members of one
    name counts. -/

namespace SplitterLaunch
namespace Json

/-- A JSON value with strings from `σ` and numbers from `ν`; an object has its members in order. -/
inductive Tree (σ ν : Type) where
  | null
  | bool (b : Bool)
  | number (n : ν)
  | string (s : σ)
  | array (items : List (Tree σ ν))
  | object (members : List (σ × Tree σ ν))
deriving Repr

/-- An integer that is held exactly: one that fits a word of 64 bits, with a sign or without. The bounds are
    `-2 ^ 63` and `2 ^ 64`. -/
structure Integer where
  toInt : Int
  inRange : -9223372036854775808 ≤ toInt ∧ toInt < 18446744073709551616
deriving DecidableEq, Repr

/-- A number: an exact integer or a binary floating-point number. -/
inductive Number where
  | integer (n : Integer)
  | float (x : Binary64)
deriving DecidableEq, Repr

/-- A number as it is written: digits before the point, after it, and in the exponent, of which the last
    two may be missing. -/
structure Numeral where
  negative : Bool
  whole : List Char
  fraction : Option (List Char)
  exponent : Option (Bool × List Char)
deriving DecidableEq, Repr

/-- A value as it is written, strings with their escapes. -/
abbrev Source := Tree (List Char) Numeral

end Json

/-- A value with what its strings and numbers denote. -/
abbrev Json := Json.Tree String Json.Number

namespace Json

def Integer.ofUInt64 (n : UInt64) : Integer := ⟨n.toNat, by have := n.toNat_lt; omega⟩

def ofUInt64 (n : UInt64) : Json := .number (.integer (.ofUInt64 n))

def ofOption {α : Type} (f : α → Json) : Option α → Json
  | some x => f x
  | none => .null

def ofBinary64 (x : Binary64) : Json := .number (.float x)

namespace Tree
variable {σ ν : Type}

mutual

/-- How many arrays and objects are nested in a value, itself included. -/
def depth : Tree σ ν → Nat
  | .array items => depthItems items + 1
  | .object members => depthMembers members + 1
  | _ => 0

def depthItems : List (Tree σ ν) → Nat
  | [] => 0
  | item :: items => max (depth item) (depthItems items)

def depthMembers : List (σ × Tree σ ν) → Nat
  | [] => 0
  | (_, item) :: members => max (depth item) (depthMembers members)

end

def members? : Tree σ ν → Option (List (σ × Tree σ ν))
  | .object members => some members
  | _ => none

end Tree

/-! ### Objects whose members are kept in the order of their names -/

abbrev Members := List (String × Json)

namespace Members

def get? (name : String) : Members → Option Json
  | [] => none
  | (key, value) :: rest => if key = name then some value else get? name rest

/-- The members with this one in its place in the order of names, instead of another of the same name. -/
def insert (name : String) (value : Json) : Members → Members
  | [] => [(name, value)]
  | (key, other) :: rest =>
    if Text.precedes name key then (name, value) :: (key, other) :: rest
    else if key = name then (name, value) :: rest
    else (key, other) :: insert name value rest

/-- The members in the order of their names; of several of one name the last counts. -/
def ofList (members : Members) : Members := members.foldl (fun acc (key, value) => insert key value acc) []

theorem get?_insert_self (name : String) (value : Json) (ms : Members) :
    (ms.insert name value).get? name = some value := by
  induction ms with
  | nil => simp [insert, get?]
  | cons m ms ih =>
    obtain ⟨key, other⟩ := m
    simp only [insert]
    split
    · simp [get?]
    · split
      · simp [get?]
      · rename_i h
        simpa [get?, h] using ih

theorem get?_insert_of_ne {name other : String} (h : other ≠ name) (value : Json) (ms : Members) :
    (ms.insert name value).get? other = ms.get? other := by
  induction ms with
  | nil => simp [insert, get?, h.symm]
  | cons m ms ih =>
    obtain ⟨key, old⟩ := m
    simp only [insert]
    split
    · simp [get?, h.symm]
    · split
      · rename_i hk
        subst hk
        simp [get?, h.symm]
      · simp [get?, ih]

end Members

mutual

/-- Whether the members of every object in a value are in the strict order of their names. -/
def isOrdered : Json → Bool
  | .array items => isOrderedItems items
  | .object members => isOrderedMembers members
  | _ => true

def isOrderedItems : List Json → Bool
  | [] => true
  | item :: items => isOrdered item && isOrderedItems items

def isOrderedMembers : Members → Bool
  | [] => true
  | (key, item) :: members =>
    isOrdered item && isOrderedMembers members && members.all fun m => Text.precedes key m.1

end

end Json
end SplitterLaunch
