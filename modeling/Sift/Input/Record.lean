import Sift.Input.Source
import Sift.Json.Reader
import Sift.Text.Blank
import Sift.Text.Lines

/-!
# Records

A record is a document with its place in the source.

**Lines.** A source of lines holds one document a line; blank lines count but hold nothing.

**Documents.** Any other source is one document. An array holds one record for every element,
unless it is taken as a whole. Standard input that is no document, and has more than one line
apart from blanks at its ends, is read as lines.

**Faults.** A source is not loaded if a text in it is no document: a line, or the whole text. The
reader is asked about this text why it is none.
-/

namespace Sift

/-- A document and its place: the number of its line or of its element, counted from one. -/
structure Record where
  index : Nat
  json : Json

namespace Record

/-- The record as a value for patterns. -/
def value (r : Record) : Value := r.json.toValue

/-- A text that is no document, and the line it fails at. -/
structure Fault where
  line : Nat
  text : List Char

/-- The records of lines that are counted from `number`. -/
def ofLinesFrom (number : Nat) : List (List Char) → Except Fault (List Record)
  | [] => .ok []
  | line :: rest =>
    if Text.trim line = [] then ofLinesFrom (number + 1) rest
    else
      match Json.read line with
      | .error _ => .error ⟨number, line⟩
      | .ok j => (ofLinesFrom (number + 1) rest).map (⟨number, j⟩ :: ·)

/-- The records of a text of lines. -/
def ofLines (text : List Char) : Except Fault (List Record) := ofLinesFrom 1 (Text.lines text)

/-- The records of documents that are counted from `number`. -/
def number (number : Nat) : List Json → List Record
  | [] => []
  | j :: rest => ⟨number, j⟩ :: Record.number (number + 1) rest

/-- The records of a document. -/
def ofDocument (whole : Bool) (j : Json) : List Record :=
  match whole, j with
  | false, .array items => number 1 items
  | _, j => [⟨1, j⟩]

/-- Whether a text has more than one line apart from blanks at its ends. -/
def hasManyLines (text : List Char) : Bool := 1 < (Text.lines (Text.trim text)).length

/-- The records of a text; `lines` says that it holds one a line, and `mayBeLines` that it is read
as lines if it is no document. -/
def ofText (lines mayBeLines whole : Bool) (text : List Char) : Except Fault (List Record) :=
  if lines then ofLines text
  else
    match Json.read text with
    | .ok j => .ok (ofDocument whole j)
    | .error line =>
      if mayBeLines && hasManyLines text then ofLines text else .error ⟨line, text⟩

end Record

/-- Why a source gives no records: it cannot be read, or a text in it is no document. -/
inductive Failure where
  | unreadable (source : String) (cause : Cause)
  | malformed (source : String) (line : Nat) (text : List Char)
  deriving DecidableEq

namespace Failure

/-- The error that a failure is reported as. -/
def error : Failure → InputError
  | unreadable source _ => .unreadable source
  | malformed source line _ => .malformed source line

/-- Why the source gives no records; `explain` tells why a text is no document. -/
def cause (explain : List Char → Cause) : Failure → Cause
  | unreadable _ cause => cause
  | malformed _ _ text => explain text

/-- The report of a failure with its cause. -/
def message (explain : List Char → Cause) (e : Failure) : String :=
  e.error.message ++ ": " ++ (e.cause explain).text

end Failure

namespace Record

/-- The records of the text of a source, or the text in it that is no document. -/
def load (source : Source) (whole : Bool) (text : List Char) : Except Failure (List Record) :=
  (ofText source.isLines source.isStandardInput whole text).mapError
    fun f => .malformed source.name f.line f.text

/-- The records of the text of a source, or the error that is reported. -/
def ofSourceText (source : Source) (whole : Bool) (text : List Char) :
    Except InputError (List Record) :=
  (load source whole text).mapError Failure.error

end Record

end Sift
