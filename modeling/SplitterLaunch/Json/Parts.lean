import SplitterLaunch.Json
import SplitterLaunch.Outcome

/-! Structures that are read strictly, in the order in which they are written: an object's members by name,
    each field at most once, or an array's items one for each field. What ends the reading of a field ends it
    all, so the first fault of several in a text is the one that counts. -/

namespace SplitterLaunch
namespace Json
variable {σ ν ε α : Type}

/-- Reads those members of an object that are fields. -/
def readMembers (nameOf? : σ → Option String) (fault : ε) (fields : List String)
    (read : String → Tree σ ν → Outcome ε α) (members : List (σ × Tree σ ν)) : Outcome ε (List (String × α)) :=
  members.foldlM
    (fun parts (key, value) =>
      match nameOf? key with
      | none => .fail fault
      | some name =>
        if !fields.contains name then .ok parts
        else if parts.any fun part => part.1 == name then .fail fault
        else do return parts ++ [(name, ← read name value)])
    []

/-- Reads the items of an array, which are no more than the fields. -/
def readItems (fault : ε) (fields : List String) (read : String → Tree σ ν → Outcome ε α)
    (items : List (Tree σ ν)) : Outcome ε (List (String × α)) := do
  let parts ← (fields.zip items).mapM fun (name, value) => do return (name, ← read name value)
  if fields.length < items.length then .fail fault else return parts

def readParts (nameOf? : σ → Option String) (fault : ε) (fields : List String)
    (read : String → Tree σ ν → Outcome ε α) : Tree σ ν → Outcome ε (List (String × α))
  | .object members => readMembers nameOf? fault fields read members
  | .array items => readItems fault fields read items
  | _ => .fail fault

end Json
end SplitterLaunch
