import SplitterLaunch.Files
import SplitterLaunch.Ledger

/-! A ledger in a file. Anything that cannot be read as a ledger counts as an empty one. Saving writes a
    sibling file first and gives it the ledger's path in one step, so that the old ledger stays whole until
    the new one is: a failed save leaves the file at the path as it was. -/

namespace SplitterLaunch

/-- A failure of one step that the tree of files itself does not explain, and what a failed write leaves in
    the file it was writing. -/
structure Mishap where
  fault : OsFault
  leaves : Option (List UInt8)
deriving DecidableEq

/-- Files, and the mishaps that the next steps meet, one for each step that can fail. -/
structure Disk where
  files : Files
  mishaps : List (Option Mishap)
deriving DecidableEq

/-- Why a ledger could not be saved: the path that the fault is about, and the fault. -/
structure SaveFault where
  path : String
  fault : OsFault
deriving DecidableEq, Repr

def SaveFault.message (f : SaveFault) : String :=
  "Failed to write deployment document " ++ f.path ++ ": " ++ f.fault.message

namespace Disk

/-- The mishap of the next step, if it meets one, and the disk after it. -/
def nextMishap (d : Disk) : Option Mishap × Disk := (d.mishaps.head?.join, { d with mishaps := d.mishaps.tail })

def readText (d : Disk) (path : String) : Except OsFault String × Disk :=
  match d.nextMishap with
  | (some mishap, d) => (.error mishap.fault, d)
  | (none, d) => (d.files.readText path, d)

/-- Whether a path leads to a directory. A look that meets a mishap finds none. -/
def isDirectory (d : Disk) (path : String) : Bool × Disk :=
  match d.nextMishap with
  | (some _, d) => (false, d)
  | (none, d) => (d.files.isDirectory path, d)

def makeDirectory (d : Disk) (path : String) : Except OsFault Unit × Disk :=
  match d.nextMishap with
  | (some mishap, d) => (.error mishap.fault, d)
  | (none, d) =>
    match d.files.makeDirectory path with
    | .ok files => (.ok (), { d with files })
    | .error fault => (.error fault, d)

/-- Nothing if a directory is there, else the fault. -/
def unlessDirectory (d : Disk) (path : String) (fault : OsFault) : Except OsFault Unit × Disk :=
  match d.isDirectory path with
  | (true, d) => (.ok (), d)
  | (false, d) => (.error fault, d)

/-- Makes a directory and those on the way to it that are missing, with a bound on how many. What was made
    before a failure stays. -/
def makeDirectoriesWithin : Nat → Disk → String → Except OsFault Unit × Disk
  | 0, d, _ => (.error .nameTooLong, d)
  | fuel + 1, d, path =>
    if path.isEmpty then (.ok (), d)
    else match d.makeDirectory path with
      | (.ok (), d) => (.ok (), d)
      | (.error fault, d) =>
        if fault = .notFound then
          match Path.parent? path with
          | none => (.error fault, d)
          | some parent =>
            match makeDirectoriesWithin fuel d parent with
            | (.error fault, d) => (.error fault, d)
            | (.ok (), d) =>
              match d.makeDirectory path with
              | (.ok (), d) => (.ok (), d)
              | (.error fault, d) => d.unlessDirectory path fault
        else d.unlessDirectory path fault

/-- Makes a directory and those on the way to it that are missing. -/
def makeDirectories (d : Disk) (path : String) : Except OsFault Unit × Disk :=
  makeDirectoriesWithin (path.length + 1) d path

/-- Writes a file. A write that meets a mishap may leave a part of the content. -/
def write (d : Disk) (path : String) (content : List UInt8) : Except OsFault Unit × Disk :=
  match d.nextMishap with
  | (some mishap, d) =>
    match mishap.leaves with
    | none => (.error mishap.fault, d)
    | some part =>
      match d.files.write path part with
      | .ok files => (.error mishap.fault, { d with files })
      | .error _ => (.error mishap.fault, d)
  | (none, d) =>
    match d.files.write path content with
    | .ok files => (.ok (), { d with files })
    | .error fault => (.error fault, d)

def rename (d : Disk) (source target : String) : Except OsFault Unit × Disk :=
  match d.nextMishap with
  | (some mishap, d) => (.error mishap.fault, d)
  | (none, d) =>
    match d.files.rename source target with
    | .ok files => (.ok (), { d with files })
    | .error fault => (.error fault, d)

/-- Removes a file if it is there and can be removed. -/
def discard (d : Disk) (path : String) : Disk :=
  match d.nextMishap with
  | (some _, d) => d
  | (none, d) =>
    match d.files.removeFile path with
    | .ok files => { d with files }
    | .error _ => d

end Disk

namespace Ledger

/-- The file that a ledger is kept in unless another is set. -/
def defaultPath : String := "deployed.json"

/-- The ledger in a text that was read, if it could be. -/
def ofText (text : Except OsFault String) : Ledger :=
  match text with
  | .ok text => (read? text).getD empty
  | .error _ => empty

def load (f : Files) (path : String) : Ledger := ofText (f.readText path)

/-- The sibling that a ledger is written to before it takes its path. -/
def temporaryPath (path : String) : String :=
  Path.sibling path ((Path.fileName? path).getD defaultPath ++ ".tmp")

/-- The directory that must be there for a path to be written, if the path names one. -/
def directoryOf? (path : String) : Option String := (Path.parent? path).filter fun dir => !dir.isEmpty

def prepare (d : Disk) (path : String) : Except OsFault Unit × Disk :=
  match directoryOf? path with
  | some directory => d.makeDirectories directory
  | none => (.ok (), d)

def save (l : Ledger) (path : String) (d : Disk) : Except SaveFault Unit × Disk :=
  match prepare d path with
  | (.error fault, d) => (.error ⟨path, fault⟩, d)
  | (.ok (), d) =>
    let temporary := temporaryPath path
    match d.write temporary (Text.toBytes l.fileText) with
    | (.error fault, d) => (.error ⟨temporary, fault⟩, d)
    | (.ok (), d) =>
      match d.rename temporary path with
      | (.error fault, d) => (.error ⟨path, fault⟩, d.discard temporary)
      | (.ok (), d) => (.ok (), d)

/-- Puts a record into the ledger in a file, and gives the ledger that the file then holds. -/
def upsertFile (path : String) (chainId : UInt64) (contract : String) (r : DeploymentRecord) (d : Disk) :
    Except SaveFault Ledger × Disk :=
  match d.readText path with
  | (text, d) =>
    let updated := (ofText text).upsert chainId contract r
    match updated.save path d with
    | (.ok (), d) => (.ok updated, d)
    | (.error fault, d) => (.error fault, d)

end Ledger
end SplitterLaunch
