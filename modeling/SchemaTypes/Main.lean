import SchemaTypes.Run

/-!
# The program

The outer layer: it takes a picture of the surroundings, runs, and carries out what the outcome
says. The picture shows the current directory and the files from which settings may be read. No
driver for a database is part of this program, so connecting fails; everything up to there, and
the reporting after it, is done. Of a file that holds no document it is only said that it holds
none, and errors come without an account of the calls that led to them.
-/

namespace SchemaTypes

/-- A database that nobody can reach. -/
def unreachable : Database where
  connect _ := .error ⟨.operational, "no database driver is available"⟩
  ping := .fails Session.notConnected
  executor _ _ := .error Session.notConnected

/-- Shows a directory, with those above it, in a picture. -/
def showDirectory (files : FileSystem) (place : Place) : FileSystem :=
  (List.range place.length).foldl
    (fun files n => files.put (place.take (n + 1)) .directory) files

/-- Shows what is at a path in a picture. -/
def showPath (files : FileSystem) (text : String) : IO FileSystem := do
  let place := ((Path.ofText text).resolve files.current).names
  try
    let content ← IO.FS.readBinFile text
    return (showDirectory files place.dropLast).put place (.file content.toList)
  catch _ =>
    try
      let _ ← IO.FS.realPath text
      return showDirectory files place
    catch _ => return files

/-- The variables that matter. -/
def readVariables : IO (List (String × String)) :=
  (Environment.columnsName :: Settings.variableNames.map (·.1)).filterMapM fun name => do
    return (← IO.getEnv name).map (name, ·)

/-- Makes what stands at a place in one picture and not in another. -/
def carryOut (before after : FileSystem) : IO Unit :=
  after.entries.forM fun (place, entry) => do
    let path := "/" ++ "/".intercalate place
    if before.find? place ≠ some entry then
      match entry with
      | .directory => IO.FS.createDirAll path
      | .file content => IO.FS.writeBinFile path ⟨content.toArray⟩

end SchemaTypes

open SchemaTypes in
/-- Runs the program with the given arguments. -/
def main (arguments : List String) : IO UInt32 := do
  let current := (Path.ofText (toString (← IO.currentDir))).names
  let home := (← IO.getEnv "HOME").getD "/"
  let environment : Environment := ⟨← readVariables, home⟩
  let requested :=
    match CommandLine.parse arguments with
    | .ok options => (options.connFile.bind Value.text?).toList
    | .error _ => []
  let own := (Settings.userFile? environment).toList.map (·.text)
  let files ← (requested ++ own).foldlM showPath
    (showDirectory { entries := [], current } current)
  let surroundings : Surroundings :=
    { files, environment, diagnosis := fun _ _ => "no document", trace := fun _ => "" }
  let outcome := run unreachable surroundings arguments
  carryOut files outcome.files
  (← IO.getStdout).putStr outcome.output
  (← IO.getStderr).putStr outcome.errorOutput
  match outcome.ending with
  | .exit code => return UInt32.ofNat code
  | .escaped failure => throw (IO.userError failure.message)
