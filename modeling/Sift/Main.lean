import Sift.Report

/-!
# The program

Reads what the paths of the command line lead to, makes the report, and writes it. The report
itself is a pure function of the arguments, the files and standard input.
-/

namespace Sift

/-- What reading gives, or why it fails. -/
def contentOf (read : IO ByteArray) : IO Content := do
  try return .bytes (← read)
  catch e => return .unreadable (.ofText (toString e))

/-- Reads what a path leads to. -/
partial def readTree? (path : String) : IO (Option FileTree) := do
  let place := System.mkFilePath [path]
  if ← place.isDir then
    try
      let mut entries : List (String × FileTree) := []
      for entry in ← place.readDir do
        if let some tree ← readTree? (path ++ "/" ++ entry.fileName) then
          entries := (entry.fileName, tree) :: entries
      return some (.directory entries)
    catch e =>
      return some (.blocked (.ofText ("IO error for operation on " ++ path ++ ": " ++ toString e)))
  else if ← place.pathExists then
    return some (.file (← contentOf (IO.FS.readBinFile place)))
  else
    return none

/-- Reads what each of several paths leads to. -/
def readTrees (paths : List (List Char)) : IO (List (List Char × FileTree)) := do
  let mut trees : List (List Char × FileTree) := []
  for path in paths do
    if let some tree ← readTree? (String.ofList path) then
      trees := (path, tree) :: trees
  return trees

/-- How the arguments are to be written. -/
def usage : List String :=
  ["Usage: sift [OPTIONS] <PATTERN> [PATHS]...",
   "",
   "Options:",
   "  -m, --mode <MODE>     exact or inclusive",
   "  -s, --case-sensitive  do not ignore case",
   "  -v, --invert          select the records that do not match",
   "  -c, --count           write only the number of records",
   "      --whole           take an array as one record",
   "      --sequential      work with one pattern",
   "      --no-color        write without colors",
   "  -h, --help            write this text",
   "  -V, --version         write the version"]

/-- The exit code when the arguments lead to no run. -/
def CommandLine.Stop.exitCode : CommandLine.Stop → UInt32
  | .help => 0
  | .version => 0
  | _ => 2

/-- What is written when the arguments lead to no run. -/
def CommandLine.Stop.report (s : CommandLine.Stop) : IO Unit :=
  match s with
  | .help => usage.forM IO.println
  | .version => IO.println "sift 0.1.0"
  | _ => usage.forM IO.eprintln

/-- Reads everything from a stream. -/
partial def readAll (stream : IO.FS.Stream) (read : ByteArray) : IO ByteArray := do
  let more ← stream.read 65536
  if more.isEmpty then return read else readAll stream (read ++ more)

/-- Why a text is no document. -/
def explain (text : List Char) : Cause :=
  match Json.read text with
  | .error line => .ofText ("the reader stopped at line " ++ toString line)
  | .ok _ => .ofText "the reader stopped"

/-- Makes and writes the report for a command line. -/
def runCommandLine (c : CommandLine) : IO UInt32 := do
  let trees ← readTrees c.paths
  let look := fun path => trees.lookup path
  let fromInput := c.paths.isEmpty || c.paths.contains ['-']
  let input ←
    if fromInput then contentOf (readAll (← IO.getStdin) ByteArray.empty)
    else pure ByteArray.empty
  let report := Report.ofCommandLine explain look input c
  for line in report.output do IO.println line
  for line in report.errors do IO.eprintln line
  return UInt32.ofNat report.exitCode

end Sift

/-- Runs the program on its arguments. -/
def main (arguments : List String) : IO UInt32 :=
  match Sift.CommandLine.ofArguments arguments with
  | .ok c => Sift.runCommandLine c
  | .error s => do
    s.report
    return s.exitCode
