import SplitterLaunch.FixedBytes
import SplitterLaunch.Json.Text

/-! Values of particular kinds in JSON, and structures: objects with a member for each field, or arrays with
    the fields in order. A reader of a field is given its value, if there is one, and decides itself what a
    missing value means. -/

namespace SplitterLaunch

def FixedBytes.toJson {n : Nat} (b : FixedBytes n) : Json := .string b.text

namespace Json

def asString? : Json → Option String
  | .string s => some s
  | _ => none

def asBool? : Json → Option Bool
  | .bool b => some b
  | _ => none

def asArray? : Json → Option (List Json)
  | .array items => some items
  | _ => none

def member? (j : Json) (name : String) : Option Json := j.members?.bind (Members.get? name)

/-- Whether no member with one of these names stands in an object twice. -/
def repeatsNone (names : List String) (j : Json) : Bool :=
  decide (((j.members?.getD []).map (·.1)).filter names.contains).Nodup

def asUInt64? : Json → Option UInt64
  | .number (.integer n) => if 0 ≤ n.toInt then some (UInt64.ofNat n.toInt.toNat) else none
  | _ => none

def asStrings? (j : Json) : Option (List String) := j.asArray?.bind fun items => items.mapM asString?

def asFixedBytes? (n : Nat) (j : Json) : Option (FixedBytes n) := j.asString?.bind (FixedBytes.ofText? n)

/-- A value that may be `null`. -/
def asNullable? {α : Type} (read : Json → Option α) : Json → Option (Option α)
  | .null => some none
  | j => (read j).map some

/-- The fields of a structure, found by name in an object or by position in an array. -/
inductive Fields where
  | named (members : Members)
  | listed (items : List Json)

/-- The fields of a value that may be a structure. -/
def fields? : Json → Option Fields
  | .object members => some (.named members)
  | .array items => some (.listed items)
  | _ => none

namespace Fields

def get? (f : Fields) (position : Nat) (name : String) : Option Json :=
  match f with
  | .named members => members.get? name
  | .listed items => items[position]?

def required? {α : Type} (f : Fields) (position : Nat) (name : String) (read : Json → Option α) : Option α :=
  (f.get? position name).bind read

/-- A field that may be `null`, and that an object may lack. -/
def nullable? {α : Type} (f : Fields) (position : Nat) (name : String) (read : Json → Option α) :
    Option (Option α) :=
  match f, f.get? position name with
  | _, some j => asNullable? read j
  | .named _, none => some none
  | .listed _, none => none

/-- A field that may be `null` or missing. -/
def optional? {α : Type} (f : Fields) (position : Nat) (name : String) (read : Json → Option α) :
    Option (Option α) :=
  match f.get? position name with
  | some j => asNullable? read j
  | none => some none

/-- Whether there are no more values than fields. An object may have members that are no fields. -/
def fits (f : Fields) (count : Nat) : Bool :=
  match f with
  | .named _ => true
  | .listed items => items.length ≤ count

end Fields
end Json
end SplitterLaunch
