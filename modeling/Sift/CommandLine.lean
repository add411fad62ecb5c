import Sift.Pattern.Basic

/-!
# The command line

The arguments are a pattern, paths, and options, which may stand anywhere before a double dash.

**Options** have a long name, and most a letter; letters can be joined behind one dash. The value
of `--mode` may be joined to its option, with or without an equals sign behind the letter, or be
the next argument. A dash alone is a value.

**Faults.** Values that wait for their option or list to be complete are checked when the next
option is taken up, when a value of another kind follows, or at the end; an argument that is no
option at all is a fault before that.
-/

namespace Sift

/-- The arguments of a run. -/
structure CommandLine where
  pattern : List Char
  paths : List (List Char)
  mode : Mode
  caseSensitive : Bool
  invert : Bool
  count : Bool
  whole : Bool
  sequential : Bool
  noColor : Bool

namespace CommandLine

/-- Why arguments lead to no run. The last two are asked for. -/
inductive Stop where
  | unknownArgument
  | argumentConflict
  | invalidValue
  | tooManyValues
  | missingArgument
  | help
  | version
  deriving DecidableEq

/-- Options without a value. -/
inductive Switch where
  | caseSensitive
  | invert
  | count
  | whole
  | sequential
  | noColor
  | help
  | version
  deriving DecidableEq

/-- All options. -/
inductive Opt where
  | mode
  | switch (s : Switch)
  deriving DecidableEq

/-- The long names of the options. -/
def longNames : List (String × Opt) :=
  [("mode", .mode), ("case-sensitive", .switch .caseSensitive), ("invert", .switch .invert),
   ("count", .switch .count), ("whole", .switch .whole), ("sequential", .switch .sequential),
   ("no-color", .switch .noColor), ("help", .switch .help), ("version", .switch .version)]

/-- The letters of the options. -/
def letters : List (Char × Opt) :=
  [('m', .mode), ('s', .switch .caseSensitive), ('v', .switch .invert), ('c', .switch .count),
   ('h', .switch .help), ('V', .switch .version)]

/-- Values that have been read and not yet checked. -/
inductive Pending where
  | nothing
  | mode (value : Option (List Char))
  | pattern (value : List Char)
  | paths (values : List (List Char))

/-- What has been taken from the arguments so far. -/
structure Progress where
  pattern : Option (List Char)
  paths : List (List Char)
  mode : Option Mode
  switches : List Switch
  pending : Pending

/-- The start of the arguments. -/
def Progress.start : Progress := ⟨none, [], none, [], .nothing⟩

/-- The mode with a name. -/
def modeOfName (name : List Char) : Option Mode :=
  if name = "exact".toList then some .exact
  else if name = "inclusive".toList then some .inclusive
  else none

/-- Takes the value of `--mode`, which is given at most once. -/
def Progress.takeMode (p : Progress) (value : Option (List Char)) : Except Stop Progress :=
  match value with
  | none => .error .invalidValue
  | some name =>
    if p.mode.isSome then .error .argumentConflict
    else
      match modeOfName name with
      | some m => .ok { p with mode := some m }
      | none => .error .invalidValue

/-- Checks the values that wait. -/
def Progress.settle (p : Progress) : Except Stop Progress :=
  let q := { p with pending := .nothing }
  match p.pending with
  | .nothing => .ok q
  | .mode value => q.takeMode value
  | .pattern value => .ok { q with pattern := some value }
  | .paths values =>
    if values.contains [] then .error .invalidValue else .ok { q with paths := q.paths ++ values }

/-- Takes a switch, which is given at most once. -/
def Progress.takeSwitch (p : Progress) (s : Switch) : Except Stop Progress :=
  p.settle.bind fun p =>
    match s with
    | .help => .error .help
    | .version => .error .version
    | s =>
      if p.switches.contains s then .error .argumentConflict
      else .ok { p with switches := s :: p.switches }

/-- Takes `--mode`, with its value if it is joined to the option. -/
def Progress.takeModeOption (p : Progress) (joined : Option (List Char)) : Except Stop Progress :=
  p.settle.bind fun p =>
    match joined with
    | some value => p.takeMode (some value)
    | none => .ok { p with pending := .mode none }

/-- Takes a value that belongs to no option: the pattern, and then the paths. -/
def Progress.takeValue (p : Progress) (value : List Char) : Except Stop Progress :=
  match p.pending with
  | .paths values => .ok { p with pending := .paths (values ++ [value]) }
  | _ =>
    p.settle.map fun p =>
      { p with pending := if p.pattern.isNone then .pattern value else .paths [value] }

/-- Takes an argument behind two dashes. -/
def Progress.takeLong (p : Progress) (text : List Char) : Except Stop Progress :=
  let name := text.takeWhile (· ≠ '=')
  let joined := match text.dropWhile (· ≠ '=') with
    | _ :: value => some value
    | [] => none
  match longNames.lookup (String.ofList name), joined with
  | none, _ => .error .unknownArgument
  | some .mode, joined => p.takeModeOption joined
  | some (.switch _), some _ => .error .tooManyValues
  | some (.switch s), none => p.takeSwitch s

/-- Takes the letters behind one dash. -/
def Progress.takeLetters (p : Progress) : List Char → Except Stop Progress
  | [] => .ok p
  | c :: rest =>
    match letters.lookup c with
    | none => .error .unknownArgument
    | some .mode =>
      p.takeModeOption <| match rest with
        | [] => none
        | '=' :: value => some value
        | value => some value
    | some (.switch s) => (p.takeSwitch s).bind fun p => p.takeLetters rest

/-- Takes one argument before a double dash. -/
def Progress.take (p : Progress) (argument : List Char) : Except Stop Progress :=
  match argument with
  | '-' :: '-' :: text => p.takeLong text
  | '-' :: c :: rest => p.takeLetters (c :: rest)
  | value =>
    match p.pending with
    | .mode none => .ok { p with pending := .mode (some value) }
    | _ => p.takeValue value

/-- Takes the arguments, only values being left once `valuesOnly` holds. -/
def Progress.takeAll (p : Progress) (valuesOnly : Bool) :
    List (List Char) → Except Stop Progress
  | [] => p.settle
  | argument :: rest =>
    if valuesOnly then (p.takeValue argument).bind fun p => p.takeAll true rest
    else if argument = ['-', '-'] then p.takeAll true rest
    else (p.take argument).bind fun p => p.takeAll false rest

/-- The command line that has been read. -/
def Progress.finish (p : Progress) : Except Stop CommandLine :=
  match p.pattern with
  | none => .error .missingArgument
  | some pattern =>
    .ok {
      pattern
      paths := p.paths
      mode := p.mode.getD .exact
      caseSensitive := p.switches.contains .caseSensitive
      invert := p.switches.contains .invert
      count := p.switches.contains .count
      whole := p.switches.contains .whole
      sequential := p.switches.contains .sequential
      noColor := p.switches.contains .noColor }

/-- Reads arguments. -/
def ofArguments (arguments : List String) : Except Stop CommandLine :=
  (Progress.start.takeAll false (arguments.map String.toList)).bind Progress.finish

/-- The pattern that the arguments ask for. -/
def toPattern (c : CommandLine) : Pattern :=
  .root { Settings.standard with mode := c.mode, ignoreCase := !c.caseSensitive } c.pattern

end CommandLine

end Sift
