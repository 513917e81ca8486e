import SplitterLaunch.Json.Decode
import SplitterLaunch.Json.Parts
import SplitterLaunch.Text.Bytes
import SplitterLaunch.Text.Numeral

/-! The interface of a compiled contract, as far as deploying it needs: whether it has a constructor, and
    the types of the constructor's arguments. All entries of an interface must be well formed, and they are
    read in order. Names of types are taken apart at counts of characters that serve as counts of bytes, so a
    cut can fall inside a character; reading crashes then, and does not tell that the interface is
    malformed. -/

namespace SplitterLaunch

/-- The type of an argument. The components of a tuple stand beside its name and are kept apart. -/
inductive AbiType where
  | address
  | bytes
  | bool
  | string
  | int (bits : Nat)
  | uint (bits : Nat)
  | fixedBytes (size : Nat)
  | tuple
  | array (item : AbiType)
  | fixedArray (item : AbiType) (size : Nat)
deriving DecidableEq, Repr

/-- That an interface is not well formed. -/
inductive AbiFault where
  | malformed
deriving DecidableEq, Repr

/-- A part of an interface, or why it cannot be read. -/
abbrev AbiReading (α : Type) := Outcome AbiFault α

namespace AbiReading
variable {α : Type}

def malformed : AbiReading α := .fail .malformed

def ofOption : Option α → AbiReading α
  | some x => .ok x
  | none => malformed

def ofCut : Option α → AbiReading α
  | some x => .ok x
  | none => .crash

end AbiReading

namespace AbiType

/-- What comes after a word at the start of a name. -/
def after? (word : String) (name : List Char) : Option (List Char) :=
  if word.toList.isPrefixOf name then some (name.drop word.length) else none

def size? (digits : List Char) : Option Nat := (Numeral.readBelow UInt64.size digits).toOption

/-- The type that a name without brackets stands for. A name that is not known stands for a contract or an
    enumeration, as small numbers. -/
def ofWord? (name : List Char) : Option AbiType :=
  let word := String.ofList name
  if word = "address" then some .address
  else if word = "bytes" then some .bytes
  else if word = "bool" then some .bool
  else if word = "string" then some .string
  else if word = "int" then some (.int 256)
  else if word = "uint" then some (.uint 256)
  else if word = "tuple" then some .tuple
  else if let some digits := after? "int" name then (size? digits).map .int
  else if let some digits := after? "uint" name then (size? digits).map .uint
  else if let some digits := after? "bytes" name then (size? digits).map .fixedBytes
  else some (.uint 8)

/-- Where a tuple's name has the names of its components, from one position to another, and `none` where a
    bracket closes that is not open. `position` is that of the next character, `depth` the number of open
    brackets and `start` where the component begins. -/
def componentSpans (position depth start : Nat) : List Char → List (Option (Nat × Nat))
  | [] => []
  | '(' :: cs => componentSpans (position + 1) (depth + 1) start cs
  | ')' :: cs =>
    match depth with
    | 0 => [none]
    | 1 => some (start, position) :: componentSpans (position + 1) 0 (position + 1) cs
    | depth + 2 => componentSpans (position + 1) (depth + 1) start cs
  | c :: cs =>
    if c = ',' ∧ depth = 1 then some (start, position) :: componentSpans (position + 1) depth (position + 1) cs
    else componentSpans (position + 1) depth start cs

/-- The type that a name of at most `fuel` characters stands for: square brackets at the end make an array, of
    the size that they may hold, and round brackets around all of it a tuple. -/
def readWithin : Nat → List Char → AbiReading AbiType
  | 0, name => AbiReading.ofOption (ofWord? name)
  | fuel + 1, name =>
    match name.getLast? with
    | some ']' => do
      let digits := (name.dropLast.reverse.takeWhile (· ≠ '[')).reverse
      let size ← if digits.isEmpty then pure none else some <$> AbiReading.ofOption (size? digits)
      if name.length < digits.length + 2 then .crash
      else
        let item ← AbiReading.ofCut (Text.takeBytes? (name.length - digits.length - 2) name)
        let item ← readWithin fuel item
        return match size with
          | some size => .fixedArray item size
          | none => .array item
    | some ')' => do
      if name.head? ≠ some '(' then AbiReading.malformed
      else
        (componentSpans 0 0 1 name).forM fun
          | none => AbiReading.malformed
          | some (start, stop) => do
            let _ ← readWithin fuel (← AbiReading.ofCut (Text.slice? start stop name))
        return .tuple
    | _ => AbiReading.ofOption (ofWord? name)

def read (name : String) : AbiReading AbiType := readWithin name.length name.toList

/-- Whether values of the type have components of their own. -/
def hasComponents : AbiType → Bool
  | .tuple => true
  | .array item => hasComponents item
  | .fixedArray item _ => hasComponents item
  | _ => false

end AbiType

/-- An argument of a function or constructor. -/
structure AbiParameter where
  name : String
  type : AbiType
deriving DecidableEq, Repr

/-- The value of a field in an interface. Of most only the form matters. -/
inductive AbiPart where
  | text (s : String)
  | type (type : AbiType)
  | parameters (parameters : List AbiParameter)
  | formed

namespace AbiPart

/-- The part under a name, as one of its kinds. -/
def find? {α : Type} (view : AbiPart → Option α) (name : String) (parts : List (String × AbiPart)) : Option α :=
  (parts.lookup name).bind view

def text? : AbiPart → Option String
  | .text s => some s
  | _ => none

def type? : AbiPart → Option AbiType
  | .type t => some t
  | _ => none

def parameters? : AbiPart → Option (List AbiParameter)
  | .parameters ps => some ps
  | _ => none

def ofText (j : Json) : AbiReading AbiPart := AbiReading.ofOption (j.asString?.map .text)

def ofFormed (isFormed : Bool) : AbiReading AbiPart := if isFormed then .ok .formed else AbiReading.malformed

def readMembers (fields : List String) (read : String → Json → AbiReading AbiPart) :
    Json → AbiReading (List (String × AbiPart))
  | .object members => Json.readMembers some .malformed fields read members
  | _ => AbiReading.malformed

/-- The parts under their names in an object, or in order in an array. -/
def readAll (fields : List String) (read : String → Json → AbiReading AbiPart) :
    Json → AbiReading (List (String × AbiPart)) :=
  Json.readParts some .malformed fields read

end AbiPart

/-- What a parameter belongs to. -/
inductive AbiOwner where
  | call
  | event
  | tuple
deriving DecidableEq, Repr

namespace AbiParameter

def fields : AbiOwner → List String
  | .event => ["name", "type", "indexed", "components"]
  | _ => ["name", "type", "internalType", "components"]

/-- The parameter that a value of at most the given depth holds. A component of a tuple needs no name, and a
    parameter with components must tell them. -/
def readWithin : Nat → AbiOwner → Json → AbiReading AbiParameter
  | 0, _, _ => AbiReading.malformed
  | depth + 1, owner, j => do
    let parts ← AbiPart.readMembers (fields owner)
      (fun name value =>
        if name = "type" then do
          return .type (← AbiType.read (← AbiReading.ofOption value.asString?))
        else if name = "indexed" then AbiPart.ofFormed value.asBool?.isSome
        else if name = "components" then do
          return .parameters (← (← AbiReading.ofOption value.asArray?).mapM (readWithin depth .tuple))
        else AbiPart.ofText value)
      j
    let name := AbiPart.find? AbiPart.text? "name" parts
    let type ← AbiReading.ofOption (AbiPart.find? AbiPart.type? "type" parts)
    if type.hasComponents && (parts.lookup "components").isNone then AbiReading.malformed
    else
      match owner, name with
      | _, some name => return ⟨name, type⟩
      | .tuple, none => return ⟨"", type⟩
      | _, none => AbiReading.malformed

def readAll (owner : AbiOwner) (j : Json) : AbiReading (List AbiParameter) := do
  (← AbiReading.ofOption j.asArray?).mapM fun item => readWithin item.depth owner item

end AbiParameter

/-- An entry of an interface. Of all but constructors only the kind matters. -/
inductive AbiEntry where
  | constructor (inputs : List AbiParameter)
  | other
deriving DecidableEq, Repr

namespace AbiEntry

/-- The words for how a function treats the state. -/
def mutabilities : List String := ["pure", "view", "nonpayable", "payable"]

/-- Whether a value says how a function treats the state: with a word, or with an object that has nothing
    under the word. -/
def isMutability : Json → Bool
  | .string s => mutabilities.contains s
  | .object [(name, value)] =>
    mutabilities.contains name && match value with
      | .null => true
      | .object [] => true
      | _ => false
  | _ => false

/-- The fields of an entry of each kind, but for those that have none. -/
def fields? (kind : String) : Option (List String) :=
  if kind = "constructor" then some ["inputs"]
  else if kind = "function" then some ["name", "inputs", "outputs", "constant", "stateMutability"]
  else if kind = "event" then some ["name", "inputs", "anonymous"]
  else if kind = "error" then some ["name", "inputs"]
  else none

def isOptional (field : String) : Bool := field == "constant" || field == "stateMutability"

def readField (kind field : String) (value : Json) : AbiReading AbiPart :=
  if field = "inputs" ∨ field = "outputs" then do
    return .parameters (← AbiParameter.readAll (if kind = "event" then .event else .call) value)
  else if field = "name" then AbiPart.ofText value
  else if field = "anonymous" then AbiPart.ofFormed value.asBool?.isSome
  else if field = "constant" then AbiPart.ofFormed (Json.asNullable? Json.asBool? value).isSome
  else AbiPart.ofFormed (isMutability value)

/-- Whether nothing follows the kind of an entry without fields. Members of an object do not count. -/
def isBare : Json → Bool
  | .array items => items.isEmpty
  | _ => true

/-- Reads what an entry of a kind holds besides its kind. -/
def readKind (kind : String) (j : Json) : AbiReading AbiEntry :=
  match fields? kind with
  | some fields => do
    let parts ← AbiPart.readAll fields (readField kind) j
    if fields.any fun field => !isOptional field && (parts.lookup field).isNone then AbiReading.malformed
    else if kind = "constructor" then
      return .constructor ((AbiPart.find? AbiPart.parameters? "inputs" parts).getD [])
    else return .other
  | none => if (kind == "fallback" || kind == "receive") && isBare j then .ok .other else AbiReading.malformed

/-- The entry that a value holds. Its kind stands under a name of its own, or before all else. -/
def read : Json → AbiReading AbiEntry
  | .object members =>
    match members.partition fun m => m.1 == "type" with
    | ([(_, .string kind)], rest) => readKind kind (.object rest)
    | _ => AbiReading.malformed
  | .array (.string kind :: rest) => readKind kind (.array rest)
  | _ => AbiReading.malformed

end AbiEntry

/-- The interface of a contract: the arguments of its constructor, if it has one. -/
structure Abi where
  constructor : Option (List AbiParameter)
deriving DecidableEq, Repr

namespace Abi

/-- The interface with these entries; the last constructor counts. -/
def ofEntries (entries : List AbiEntry) : Abi where
  constructor := entries.foldl
    (fun found entry => match entry with
      | .constructor inputs => some inputs
      | .other => found)
    none

/-- The interface whose entries these values inside `level` arrays and objects are. -/
def read (level : Nat) (entries : List Json.Source) : AbiReading Abi := do
  let entries ← entries.mapM fun entry => do
    AbiEntry.read (← AbiReading.ofOption (Json.writtenInside? level entry))
  return ofEntries entries

end Abi
end SplitterLaunch
