import Sift.Input.FileTree

/-!
# Sources

A source is where records come from: standard input, or a file given by its path. `discover`
turns the paths of a command line into sources.

**Discovery.** Without paths the source is standard input, and so it is for a dash. A file is a
source whatever its name. A directory stands for the files below it whose extension is `json` or
`jsonl`, in the order of the names that lead to them. It is an error if a path leads nowhere, or if
the walk through a directory does not come to its end; the first path of this kind decides.
-/

namespace Sift

/-- Where records come from. -/
inductive Source where
  | standardInput
  | file (path : List Char) (content : Content)

namespace Source

/-- The name by which a source is reported. -/
def name : Source → String
  | standardInput => "<stdin>"
  | file path _ => String.ofList path

def isStandardInput : Source → Bool
  | standardInput => true
  | file _ _ => false

/-- Whether a source holds one record a line. -/
def isLines : Source → Bool
  | standardInput => false
  | file path _ => Path.hasExtension path "jsonl"

end Source

/-- What goes wrong with paths and sources. -/
inductive InputError where
  | missing (path : String)
  | blocked (cause : Cause)
  | unreadable (source : String)
  | malformed (source : String) (line : Nat)
  deriving DecidableEq

/-- The report of an error. -/
def InputError.message : InputError → String
  | missing path => "No such file or directory: '" ++ path ++ "'"
  | blocked cause => "Walkdir error: " ++ cause.text
  | unreadable source => "Failed to read input '" ++ source ++ "'"
  | malformed source line => "Invalid JSON in '" ++ source ++ "' at line " ++ toString line

namespace Source

/-- Whether a file below a directory holds records. -/
def isRecordFile (names : List String) : Bool :=
  match names.getLast? with
  | some name =>
    Path.hasExtension name.toList "json" || Path.hasExtension name.toList "jsonl"
  | none => false

/-- Whether names come before others or are the same: at the first difference the lesser name
comes first, and names that end come before names that go on. -/
def comesBefore : List String → List String → Bool
  | [], _ => true
  | _ :: _, [] => false
  | a :: as, b :: bs => a < b || (a == b && comesBefore as bs)

/-- The sources below a directory. -/
def ofDirectory (path : List Char) (t : FileTree) : List Source :=
  ((t.files.filter fun f => isRecordFile f.1).mergeSort fun f g => comesBefore f.1 g.1).map fun f =>
    file (Path.join path f.1) f.2

/-- The sources that one path stands for. -/
def ofPath (look : List Char → Option FileTree) (path : List Char) :
    Except InputError (List Source) :=
  if path = ['-'] then .ok [standardInput]
  else
    match look path with
    | some (.file content) => .ok [file path content]
    | some t =>
      match t.obstacle? with
      | some cause => .error (.blocked cause)
      | none => .ok (ofDirectory path t)
    | none => .error (.missing (String.ofList path))

/-- The sources of several paths, in order. -/
def ofPaths (look : List Char → Option FileTree) :
    List (List Char) → Except InputError (List Source)
  | [] => .ok []
  | path :: rest =>
    match ofPath look path with
    | .error e => .error e
    | .ok sources =>
      match ofPaths look rest with
      | .error e => .error e
      | .ok more => .ok (sources ++ more)

/-- The sources that the paths of a command line stand for. -/
def discover (look : List Char → Option FileTree) (paths : List (List Char)) :
    Except InputError (List Source) :=
  if paths = [] then .ok [standardInput] else ofPaths look paths

end Source

end Sift
