import Sift.Json.Numeral
import Sift.Text.Lines
import Sift.Unicode.Runs

/-!
# Reading JSON

The reader follows RFC 8259 strictly. Blanks are space, tab, line feed and carriage return; of
several entries for a key the last one counts; half a surrogate pair is no character.

**Depth.** Arrays and objects may stand in one another to a depth of 127.

**Failures** are located by their line: one more than the line feeds up to the place of the
failure.
-/

namespace Sift.Json

/-- Reads something from the front of a text. -/
abbrev Reader (α : Type) := List Char → Outcome α

/-- The blanks of JSON. -/
def isBlank (c : Char) : Bool := c = ' ' || c = '\t' || c = '\n' || c = '\r'

/-- The text without blanks in front. -/
def skipBlanks (s : List Char) : List Char := s.dropWhile isBlank

/-- Fails at a character that was looked at. -/
def failAt {α : Type} (s : List Char) : Outcome α := .error (s.drop 1)

/-- Reads the rest of a word. -/
def word (json : Json) : List Char → Reader Json
  | [], s => .ok (json, s)
  | _ :: _, [] => .error []
  | w :: ws, c :: r => if c = w then word json ws r else .error r

/-! ## Strings -/

/-- The text behind the first `n` bytes, or behind the character that the last of them is part
of. -/
def dropBytes (n : Nat) : List Char → List Char
  | [] => []
  | c :: r => if n = 0 then c :: r else dropBytes (n - c.utf8Size) r

/-- Reads four hexadecimal digits. -/
def hexUnit (s : List Char) : Outcome Nat :=
  match s with
  | a :: b :: c :: d :: r =>
    match Unicode.hexDigit? a, Unicode.hexDigit? b, Unicode.hexDigit? c, Unicode.hexDigit? d with
    | some a, some b, some c, some d => .ok (4096 * a + 256 * b + 16 * c + d, r)
    | _, _, _, _ => .error (dropBytes 4 s)
  | s => .error (dropBytes 4 s)

/-- Whether a unit is the first half of a surrogate pair. -/
def isHighSurrogate (n : Nat) : Bool := 0xD800 ≤ n && n ≤ 0xDBFF

/-- Whether a unit is the second half of a surrogate pair. -/
def isLowSurrogate (n : Nat) : Bool := 0xDC00 ≤ n && n ≤ 0xDFFF

/-- Reads the second half of a surrogate pair. -/
def lowSurrogate (high : Nat) (s : List Char) : Outcome Char :=
  match s with
  | '\\' :: 'u' :: r =>
    match hexUnit r with
    | .ok (low, rest) =>
      if isLowSurrogate low then
        .ok (Char.ofNat (0x10000 + 1024 * (high - 0xD800) + (low - 0xDC00)), rest)
      else .error rest
    | .error rest => .error rest
  | '\\' :: r => failAt r
  | s => failAt s

/-- Reads the code of a character behind `u`, a surrogate pair being two of them. -/
def unicodeEscape (s : List Char) : Outcome Char :=
  match hexUnit s with
  | .ok (n, rest) =>
    if isLowSurrogate n then .error rest
    else if isHighSurrogate n then lowSurrogate n rest
    else .ok (Char.ofNat n, rest)
  | .error rest => .error rest

/-- Reads an escape behind its backslash. -/
def escape (s : List Char) : Outcome Char :=
  match s with
  | [] => .error []
  | c :: r =>
    match c with
    | '"' => .ok ('"', r)
    | '\\' => .ok ('\\', r)
    | '/' => .ok ('/', r)
    | 'b' => .ok (Char.ofNat 8, r)
    | 'f' => .ok (Char.ofNat 12, r)
    | 'n' => .ok ('\n', r)
    | 'r' => .ok ('\r', r)
    | 't' => .ok ('\t', r)
    | 'u' => unicodeEscape r
    | _ => .error r

/-- Reads a string behind its opening quote. `read` holds its characters so far, the last one
first. -/
def stringBody : (fuel : Nat) → (read : List Char) → Reader String
  | 0, _, s => .error s
  | fuel + 1, read, s =>
    match s with
    | [] => .error []
    | '"' :: r => .ok (String.ofList read.reverse, r)
    | '\\' :: r =>
      match escape r with
      | .ok (c, rest) => stringBody fuel (c :: read) rest
      | .error rest => .error rest
    | c :: r => if c.toNat < 0x20 then .error r else stringBody fuel (c :: read) r

/-- Reads a string behind its opening quote. -/
def quotedString (s : List Char) : Outcome String := stringBody (s.length + 1) [] s

/-! ## Arrays and objects -/

/-- Reads what stands between two parts of an array or object: the closing bracket, or a comma up
to the start of the next part. The result says whether a part follows. -/
def separator (close : Char) (s : List Char) : Outcome Bool :=
  match skipBlanks s with
  | [] => .error []
  | c :: r =>
    if c = close then .ok (false, r)
    else if c = ',' then
      match skipBlanks r with
      | [] => .error []
      | d :: r => if d = close then .error r else .ok (true, d :: r)
    else .error r

/-- Reads parts up to the closing bracket, the text starting with a part. `read` is what was made of
the parts so far. -/
def parts {α β : Type} (part : Reader α) (close : Char) (add : α → β → β) :
    (fuel : Nat) → (read : β) → Reader β
  | 0, _, s => .error s
  | fuel + 1, read, s =>
    match part s with
    | .error rest => .error rest
    | .ok (a, rest) =>
      match separator close rest with
      | .error rest => .error rest
      | .ok (false, rest) => .ok (add a read, rest)
      | .ok (true, rest) => parts part close add fuel (add a read) rest

/-- Reads the parts behind an opening bracket, if there are any. -/
def partsBehind {α β : Type} (part : Reader α) (close : Char) (add : α → β → β) (start : β)
    (s : List Char) : Outcome β :=
  match skipBlanks s with
  | [] => .error []
  | c :: r =>
    if c = close then .ok (start, r) else parts part close add (r.length + 2) start (c :: r)

/-- Reads an array behind its opening bracket. -/
def arrayBody (value : Reader Json) (s : List Char) : Outcome Json :=
  (partsBehind value ']' List.cons [] s).map fun (items, rest) => (.array items.reverse, rest)

/-- Reads an entry: a key, a colon and a value. -/
def entry (value : Reader Json) (s : List Char) : Outcome (String × Json) :=
  match s with
  | '"' :: r =>
    match quotedString r with
    | .error rest => .error rest
    | .ok (key, rest) =>
      match skipBlanks rest with
      | ':' :: r =>
        match value r with
        | .error rest => .error rest
        | .ok (j, rest) => .ok ((key, j), rest)
      | s => failAt s
  | s => failAt s

/-- Reads an object behind its opening brace. -/
def objectBody (value : Reader Json) (s : List Char) : Outcome Json :=
  (partsBehind (entry value) '\x7d' (fun e => Entries.insert e.1 e.2) [] s).map
    fun (entries, rest) => (.object entries, rest)

/-! ## Documents -/

/-- Reads a value in which arrays and objects stand in one another to less than the given
depth. -/
def valueWithin : (depth : Nat) → Reader Json
  | 0, s => .error s
  | depth + 1, s =>
    match skipBlanks s with
    | [] => .error []
    | c :: r =>
      match c with
      | 'n' => word .null ['u', 'l', 'l'] r
      | 't' => word (.bool true) ['r', 'u', 'e'] r
      | 'f' => word (.bool false) ['a', 'l', 's', 'e'] r
      | '"' =>
        match quotedString r with
        | .ok (t, rest) => .ok (.string t, rest)
        | .error rest => .error rest
      | '[' => if depth = 0 then .error r else arrayBody (valueWithin depth) r
      | '\x7b' => if depth = 0 then .error r else objectBody (valueWithin depth) r
      | '-' => (Numeral.read true r).map fun (n, rest) => (.number n, rest)
      | c =>
        if c.isDigit then (Numeral.read false (c :: r)).map fun (n, rest) => (.number n, rest)
        else .error r

/-- The least depth that arrays and objects cannot reach. -/
def maxDepth : Nat := 128

/-- Reads a whole text as a document in which arrays and objects stand in one another to less than
the given depth; a failure is located by its line. -/
def readWithin (depth : Nat) (text : List Char) : Except Nat Json :=
  let lineAt (rest : List Char) : Nat := 1 + Text.lineFeeds text - Text.lineFeeds rest
  match valueWithin depth text with
  | .error rest => .error (lineAt rest)
  | .ok (j, rest) =>
    match skipBlanks rest with
    | [] => .ok j
    | _ :: r => .error (lineAt r)

/-- Reads a whole text as a document; a failure is located by its line. -/
def read (text : List Char) : Except Nat Json := readWithin maxDepth text

end Sift.Json
