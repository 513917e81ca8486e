import SplitterLaunch.Files.Fault
import SplitterLaunch.Files.Path
import SplitterLaunch.Text.Bytes
import SplitterLaunch.Text.Order

/-! A tree of files as programs see it, without links. Each file and directory has a location, the names on
    the way to it from the root, and a path is followed from the root or the working directory. The
    operations fail as the calls of an operating system do, and change nothing when they fail. -/

namespace SplitterLaunch

/-- The names on the way from the root, the innermost first. -/
abbrev Location := List String

/-- What stands at a location. -/
inductive Entry where
  | directory
  | file (content : List UInt8)
deriving DecidableEq

/-- The entries of a tree of files, and the directory that paths start from. The root is always there. -/
structure Files where
  entries : List (Location × Entry)
  workingDirectory : Location
deriving DecidableEq

namespace Files

def lookup? (f : Files) : Location → Option Entry
  | [] => some .directory
  | l => f.entries.lookup l

def setEntry (l : Location) (e : Entry) : List (Location × Entry) → List (Location × Entry)
  | [] => [(l, e)]
  | (key, other) :: rest => if key = l then (l, e) :: rest else (key, other) :: setEntry l e rest

def put (f : Files) (l : Location) (e : Entry) : Files := { f with entries := setEntry l e f.entries }

def remove (f : Files) (l : Location) : Files := { f with entries := f.entries.filter fun x => x.1 ≠ l }

/-- A tree that holds nothing but the directories on the way to the working directory. -/
def empty (workingDirectory : Location) : Files where
  entries := (List.range workingDirectory.length).map fun i => (workingDirectory.drop i, .directory)
  workingDirectory := workingDirectory

/-! ### Following a path -/

/-- The names of a path, without empty ones. -/
def names (path : String) : List String :=
  (path.toList.splitOn '/').filterMap fun cs => if cs.isEmpty then none else some (String.ofList cs)

/-- The longest name of a file, in bytes. -/
def maxName : Nat := 255

/-- The length that no path reaches, in bytes. -/
def maxPath : Nat := 4096

def enter (f : Files) (l : Location) (name : String) : Except OsFault Location :=
  if name = "." then .ok l
  else if name = ".." then .ok l.tail
  else if maxName < name.utf8ByteSize then .error .nameTooLong
  else match f.lookup? (name :: l) with
    | some .directory => .ok (name :: l)
    | some (.file _) => .error .notDirectory
    | none => .error .notFound

/-- Where a path leads. -/
structure Target where
  location : Location
  /-- The last name is a dot or two dots, or there is none. -/
  special : Bool
  /-- A slash comes after the last name. -/
  slash : Bool
deriving DecidableEq

/-- Follows a path up to its last name, which need not exist. -/
def follow (f : Files) (path : String) : Except OsFault Target := do
  if path.toList.contains '\x00' then .error .zeroInPath
  else if path.isEmpty then .error .notFound
  else if maxPath ≤ path.utf8ByteSize then .error .nameTooLong
  else
    let start := if path.toList.head? = some '/' then [] else f.workingDirectory
    let all := names path
    match all.getLast? with
    | none => return ⟨start, true, false⟩
    | some last =>
      let directory ← all.dropLast.foldlM f.enter start
      let slash := path.toList.getLast? == some '/'
      if last = "." then return ⟨directory, true, slash⟩
      else if last = ".." then return ⟨directory.tail, true, slash⟩
      else if maxName < last.utf8ByteSize then .error .nameTooLong
      else return ⟨last :: directory, false, slash⟩

/-! ### Operations -/

def read (f : Files) (path : String) : Except OsFault (List UInt8) := do
  let target ← f.follow path
  match f.lookup? target.location with
  | none => .error .notFound
  | some .directory => .error .isDirectory
  | some (.file content) => if target.slash then .error .notDirectory else return content

def readText (f : Files) (path : String) : Except OsFault String := do
  let content ← f.read path
  match Text.ofBytes? content with
  | some text => return text
  | none => .error .notText

def isDirectory (f : Files) (path : String) : Bool :=
  match f.follow path with
  | .ok target => f.lookup? target.location == some .directory
  | .error _ => false

def makeDirectory (f : Files) (path : String) : Except OsFault Files := do
  let target ← f.follow path
  if (f.lookup? target.location).isSome then .error .alreadyExists else return f.put target.location .directory

/-- Writes a file, making it or replacing what it held. -/
def write (f : Files) (path : String) (content : List UInt8) : Except OsFault Files := do
  let target ← f.follow path
  if target.special || target.slash || f.lookup? target.location == some .directory then .error .isDirectory
  else return f.put target.location (.file content)

/-- Gives a file another path, whose file it replaces. -/
def rename (f : Files) (source target : String) : Except OsFault Files := do
  let origin ← f.follow source
  let destination ← f.follow target
  match f.lookup? origin.location with
  | none => .error .notFound
  | some .directory => .error .busy
  | some (.file content) =>
    if destination.special then .error .busy
    else if destination.slash then .error .notDirectory
    else if f.lookup? destination.location == some .directory then .error .isDirectory
    else return (f.remove origin.location).put destination.location (.file content)

def removeFile (f : Files) (path : String) : Except OsFault Files := do
  let target ← f.follow path
  match f.lookup? target.location with
  | none => .error .notFound
  | some .directory => .error .isDirectory
  | some (.file _) => return f.remove target.location

/-! ### Views -/

/-- Whether a location lies below another, and its names from there. -/
def below? (top l : Location) : Option (List String) :=
  if top.length < l.length ∧ l.drop (l.length - top.length) = top then some (l.take (l.length - top.length)).reverse
  else none

/-- The paths of all entries below a location, those of directories with a slash at the end, in order. -/
def listing (f : Files) (top : Location) : List String :=
  let paths := f.entries.filterMap fun (l, e) =>
    (below? top l).map fun names => "/".intercalate names ++ (if e == .directory then "/" else "")
  paths.mergeSort fun a b => !Text.precedes b a

/-- The files below a location, by their paths. -/
def contents (f : Files) (top : Location) : List (String × List UInt8) :=
  f.entries.filterMap fun (l, e) =>
    match e, below? top l with
    | .file content, some names => some ("/".intercalate names, content)
    | _, _ => none

end Files
end SplitterLaunch
