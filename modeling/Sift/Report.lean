import Sift.CommandLine
import Sift.Selection
import Sift.Json.Writer

/-!
# Reports

What a run writes and how it ends. Every source has a block of lines on standard output, in the
order of the sources: its records, or their number. A source that fails has one line on standard
error instead. Colors, which are for terminals, are left out.

**Causes.** The line of a source that fails ends with the cause. Why a text is no document is said
by the reader that has refused it, so this is a parameter: `explain`.

**Locations** stand in front of the lines when there are several sources, or when a path is a
directory.

**Exit codes.** 2 if something failed, else 0 if something was selected, else 1.
-/

namespace Sift

/-- What a run has written, line by line, and its exit code. -/
structure Report where
  output : List String
  errors : List String
  exitCode : Nat

namespace Report

/-- The line of a record. -/
def recordLine (located : Bool) (source : Source) (r : Record) : String :=
  let text := r.json.toText
  if located then source.name ++ ":" ++ toString r.index ++ ":" ++ text else text

/-- The line with the number of records. -/
def countLine (located : Bool) (source : Source) (n : Nat) : String :=
  if located then source.name ++ ":" ++ toString n else toString n

/-- The lines of a source. -/
def block (count located : Bool) (r : Selection.Result) : List String :=
  if count then [countLine located r.source r.kept.length]
  else r.kept.map (recordLine located r.source)

/-- The line of an error. -/
def errorLine (message : String) : String := "error: " ++ message

/-- What was selected, without the failures. -/
def successes (results : List (Except Failure Selection.Result)) : List Selection.Result :=
  results.filterMap Except.toOption

/-- The failures. -/
def failures (results : List (Except Failure Selection.Result)) : List Failure :=
  results.filterMap fun
    | .error e => some e
    | .ok _ => none

/-- The report on what was selected from the sources. -/
def ofResults (explain : List Char → Cause) (count located : Bool)
    (results : List (Except Failure Selection.Result)) : Report where
  output := (successes results).flatMap (block count located)
  errors := (failures results).map fun e => errorLine (e.message explain)
  exitCode :=
    if failures results ≠ [] then 2
    else if (successes results).any (fun r => r.kept ≠ []) then 0
    else 1

/-- Whether a path leads to a directory. -/
def isDirectory (look : List Char → Option FileTree) (path : List Char) : Bool :=
  match look path with
  | some (.file _) => false
  | some _ => true
  | none => false

/-- The report of a whole run. -/
def ofCommandLine (explain : List Char → Cause) (look : List Char → Option FileTree)
    (input : Content) (c : CommandLine) : Report :=
  match Source.discover look c.paths with
  | .error e => ⟨[], [errorLine e.message], 2⟩
  | .ok sources =>
    let located := 1 < sources.length || c.paths.any (isDirectory look)
    ofResults explain c.count located
      (Selection.run ⟨c.invert, c.whole, c.sequential⟩ c.toPattern input sources)

end Report

end Sift
