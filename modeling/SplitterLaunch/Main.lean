import SplitterLaunch.Program
import Std.Time.DateTime.Timestamp

/-! The program on an operating system. The files that a run may look at are read before it and what it
    changed is written after it. There is no transport to nodes here: a request ends as it does on a machine
    that no network reaches. -/

namespace SplitterLaunch
namespace Program

/-- The variables that are set, of those with these names. -/
def environmentOf (names : List String) : IO Environment := do
  let pairs ← names.filterMapM fun name => do return (← IO.getEnv name).map fun value => (name, value)
  return fun name => pairs.lookup name

/-- Where a path leads from a directory, by its names alone. -/
def locate (directory : Location) (path : String) : Location :=
  (Files.names path).foldl
    (fun l name => if name = "." then l else if name = ".." then l.tail else name :: l)
    (if path.toList.head? = some '/' then [] else directory)

def pathOf (l : Location) : String := "/" ++ "/".intercalate l.reverse

/-- A location and those above it, itself first. -/
def withAbove (l : Location) : List Location := (List.range (l.length + 1)).map l.drop

/-- Adds what stands at a location, and the directories on the way to it. -/
def observe (l : Location) (files : Files) : IO Files := do
  let root ← IO.currentDir
  let mut files := files
  for above in (withAbove l).reverse do
    let path := root / pathOf above
    if above.isEmpty then continue
    else if ← path.isDir then files := files.put above .directory
    else if ← path.pathExists then files := files.put above (.file (← IO.FS.readBinFile path).data.toList)
  return files

/-- Writes the entries that were not there, or were others. -/
def store (before after : Files) : IO Unit := do
  for (l, entry) in after.entries.reverse do
    if before.lookup? l != some entry then
      match entry with
      | .directory => IO.FS.createDirAll (pathOf l)
      | .file content => IO.FS.writeBinFile (pathOf l) ⟨content.toArray⟩

/-- The words of a text, which may be names of variables. -/
def wordsOf (text : String) : List String :=
  ((text.toList.splitBy fun a b => a.isAlphanum == b.isAlphanum).map String.ofList)
    ++ ((text.toList.splitBy fun a b => EnvironmentFile.isNamePart a == EnvironmentFile.isNamePart b).map
          String.ofList)

/-- Runs the program in the working directory, with the variables and at the time there are. -/
def runHere (arguments : List String) : IO UInt32 := do
  let directory := locate [] (← IO.currentDir).toString
  let mut files := Files.empty directory
  for above in withAbove directory do
    files ← observe (EnvironmentFile.fileName :: above) files
  let variablesText := (((EnvironmentFile.find? files directory).bind Text.ofBytes?).getD "")
  let names := [networkVariable, marksVariable, noMarksVariable] ++ Settings.variableNames
  let env ← environmentOf (names ++ wordsOf variablesText)
  if let some full := EnvironmentFile.environment? files env then
    if let .ok settings := Settings.ofEnvironment full then
      for path in [settings.artifactPath, settings.ledgerPath, Ledger.temporaryPath settings.ledgerPath] do
        files ← observe (locate directory path) files
  let now ← Std.Time.Timestamp.now
  let timestamp := Timestamp.ofNanoseconds now.toNanosecondsSinceUnixEpoch.val.toNat
  let (ending, world) := run HelpTopic.programName arguments env
    (.start (.unreachable .networkUnreachable) files timestamp)
  store files world.disk.files
  IO.print world.printed
  match ending with
  | .failed message causes => IO.eprint (End.report message causes)
  | .misused fault => IO.eprintln ("error: " ++ fault.message)
  | _ => pure ()
  return UInt32.ofNat ending.exitCode

end Program
end SplitterLaunch

/-- Runs the program on the arguments after its name. -/
def main (arguments : List String) : IO UInt32 := SplitterLaunch.Program.runHere arguments
