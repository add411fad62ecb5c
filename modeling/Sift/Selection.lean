import Sift.Input.Record
import Sift.Pattern.Evaluate

/-!
# Selections

Selects the records of sources that match a pattern, or those that do not.

**Standard input** is used up when it is first read, and empty afterwards.

**One pattern or many.** In sequence one pattern works on all sources and keeps what it has read;
otherwise every source gets a pattern of its own that has read nothing. Both select the same
records.
-/

namespace Sift

/-- How records are selected. -/
structure Selection where
  invert : Bool
  whole : Bool
  sequential : Bool

namespace Selection

/-- The records of a list that match, or that do not match if the selection is inverted, and the
pattern after having judged them. -/
def keep (invert : Bool) (p : Pattern) (s : State) :
    List Record → List Record × Pattern × State
  | [] => ([], p, s)
  | r :: rest =>
    let (verdict, p, s) := p.evaluate r.value s
    let (kept, p, s) := keep invert p s rest
    (if (verdict = .isMatch) ≠ invert then r :: kept else kept, p, s)

/-- The number of the records of a list, those of them that are kept, and the pattern after having
judged them. -/
def select (invert : Bool) (p : Pattern) (s : State) (records : List Record) :
    Nat × List Record × Pattern × State :=
  (records.length, keep invert p s records)

/-- What was selected from a source. -/
structure Result where
  source : Source
  total : Nat
  kept : List Record

/-- The text of a source, and standard input after having read it. -/
def readSource (input : Content) : Source → Except Cause String × Content
  | .standardInput => (input.text, input.rest)
  | .file _ content => (content.text, input)

/-- The records of a source, and standard input after having read them. -/
def load (whole : Bool) (input : Content) (source : Source) :
    Except Failure (List Record) × Content :=
  let (text, input) := readSource input source
  (match text with
    | .ok t => Record.load source whole t.toList
    | .error cause => .error (.unreadable source.name cause), input)

/-- Selects from a source: the result, and the pattern and standard input after it. -/
def runSource (o : Selection) (p : Pattern) (s : State) (input : Content) (source : Source) :
    Except Failure Result × Pattern × State × Content :=
  let (records, input) := load o.whole input source
  match records with
  | .error e => (.error e, p, s, input)
  | .ok records =>
    let (total, kept, p, s) := select o.invert p s records
    (.ok ⟨source, total, kept⟩, p, s, input)

/-- Selects from sources in order, with one pattern. -/
def runShared (o : Selection) (p : Pattern) (s : State) (input : Content) :
    List Source → List (Except Failure Result)
  | [] => []
  | source :: rest =>
    let (result, p, s, input) := runSource o p s input source
    result :: runShared o p s input rest

/-- Selects from sources with a pattern of its own for each. -/
def runForked (o : Selection) (p : Pattern) (input : Content) :
    List Source → List (Except Failure Result)
  | [] => []
  | source :: rest =>
    let (result, _, _, input) := runSource o p.forget ⟨[], []⟩ input source
    result :: runForked o p input rest

/-- Selects from sources by a pattern that may have been in use before. -/
def runFrom (o : Selection) (p : Pattern) (s : State) (input : Content) (sources : List Source) :
    List (Except Failure Result) :=
  if o.sequential || sources.length == 1 then runShared o p s input sources
  else runForked o p input sources

/-- Selects from sources. -/
def run (o : Selection) (p : Pattern) (input : Content) (sources : List Source) :
    List (Except Failure Result) :=
  runFrom o p ⟨[], []⟩ input sources

end Selection

end Sift
