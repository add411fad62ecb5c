import Sift.Regex.Expression
import Sift.Text.Blank
import Sift.Unicode.Recent

/-!
# Reading regular expressions

The reader takes the text of an expression apart from left to right; it gives up at the first
thing that has no meaning. There is no look-around and there are no back-references.

**Extended mode.** The flag `x` lets blanks and comments stand between the parts of an expression.
It holds until the end of the group that sets it.

**Fuel.** Every step consumes a character, so the length of the text bounds the steps.
-/

namespace Sift.Regex.Reader

open Sift.Text (isBlank)

/-! ## Blanks and single characters -/

/-- Skips blanks, and comments from `#` to the end of the line. -/
def skipExtended : (inComment : Bool) → List Char → List Char
  | _, [] => []
  | true, c :: r => skipExtended (c ≠ '\n') r
  | false, c :: r =>
    if isBlank c then skipExtended false r
    else if c = '#' then skipExtended true r
    else c :: r

/-- Skips what extended mode lets stand between parts. -/
def skip (extended : Bool) (s : List Char) : List Char :=
  if extended then skipExtended false s else s

/-- The next character after the one at the front that extended mode does not skip. A comment
counts with its first character. -/
def peekAfter (extended : Bool) (s : List Char) : Option Char :=
  let rest := s.drop 1
  if extended then
    match (rest.dropWhile isBlank) with
    | '#' :: r => (r.dropWhile fun c => isBlank c).head?
    | r => r.head?
  else rest.head?

/-- The characters that have a meaning of their own. -/
def isMeta (c : Char) : Bool :=
  ['\\', '.', '+', '*', '?', '(', ')', '|', '[', ']', '\x7b', '\x7d', '^', '$', '#', '&', '-',
    '~'].contains c

/-- The characters that a backslash leaves as they are. -/
def isEscapable (c : Char) : Bool :=
  isMeta c || (c.toNat < 0x80 && !c.isAlphanum && c ≠ '<' && c ≠ '>')

/-- The characters with a code point, if there is one. -/
def charOfNat? (n : Nat) : Option Char :=
  if n.isValidChar then some (Char.ofNat n) else none

/-! ## Escapes -/

/-- Reads a fixed number of hexadecimal digits. -/
def fixedHex (extended : Bool) : (count : Nat) → (value : Nat) → List Char →
    Option (Nat × List Char)
  | 0, value, s => some (value, s)
  | count + 1, value, s =>
    match s with
    | c :: r =>
      (Unicode.hexDigit? c).bind fun d =>
        fixedHex extended count (16 * value + d) (skip extended r)
    | [] => none

/-- Reads hexadecimal digits up to a closing brace. -/
def bracedHex (extended : Bool) : (fuel : Nat) → (nonempty : Bool) → (value : Nat) → List Char →
    Option (Nat × List Char)
  | 0, _, _, _ => none
  | fuel + 1, nonempty, value, s =>
    match s with
    | '\x7d' :: r => if nonempty then some (value, skip extended r) else none
    | c :: r =>
      (Unicode.hexDigit? c).bind fun d =>
        bracedHex extended fuel true (16 * value + d) (skip extended r)
    | [] => none

/-- Reads the digits of a hexadecimal escape, in braces or as many as the letter asks for. -/
def hexEscape (extended : Bool) (count : Nat) (s : List Char) : Option (Letter × List Char) :=
  match s with
  | '\x7b' :: r =>
    (bracedHex extended (r.length + 1) false 0 (skip extended r)).bind fun (n, rest) =>
      (charOfNat? n).map fun c => (⟨c, false⟩, rest)
  | s =>
    (fixedHex extended count 0 s).bind fun (n, rest) =>
      (charOfNat? n).map fun c => (⟨c, count = 2⟩, rest)

/-- Cuts a list before the first place where another list stands, and takes that list away. -/
def cut (mark : List Char) : List Char → Option (List Char × List Char)
  | [] => (mark.isPrefixOf? []).map fun rest => ([], rest)
  | c :: r =>
    match mark.isPrefixOf? (c :: r) with
    | some rest => some ([], rest)
    | none => (cut mark r).map fun (before, after) => (c :: before, after)

/-- The class asked for between the braces of a property escape. -/
def propertyQuery (name : List Char) : PropertyQuery :=
  match cut ['!', '='] name with
  | some (property, value) => .valued property value true
  | none =>
    match cut [':'] name <|> cut ['='] name with
    | some (property, value) => .valued property value false
    | none => .named name

/-- Reads the name of a property up to a closing brace. -/
def bracedName (extended : Bool) : (fuel : Nat) → List Char → Option (List Char × List Char)
  | 0, _ => none
  | fuel + 1, s =>
    match s with
    | '\x7d' :: r => some ([], r)
    | c :: r => (bracedName extended fuel (skip extended r)).map fun (name, rest) =>
        (c :: name, rest)
    | [] => none

/-- Reads a property escape after its letter. -/
def propertyEscape (extended : Bool) (s : List Char) : Option (PropertyQuery × List Char) :=
  match s with
  | [] => none
  | '\x7b' :: r => (bracedName extended (r.length + 1) (skip extended r)).map fun (name, rest) =>
      (propertyQuery name, rest)
  | '\\' :: _ => none
  | c :: r => some (.named [c], skip extended r)

/-- The characters in the name of a word boundary. -/
def isBoundaryChar (c : Char) : Bool := c.isAlpha || c = '-'

/-- Reads the name of a word boundary. -/
def boundaryName (extended : Bool) : (fuel : Nat) → List Char → List Char × List Char
  | 0, s => ([], s)
  | fuel + 1, s =>
    match s with
    | c :: r =>
      if isBoundaryChar c then
        let (name, rest) := boundaryName extended fuel (skip extended r)
        (c :: name, rest)
      else ([], s)
    | [] => ([], [])

/-- The word boundary with a name. -/
def boundaryOfName (name : List Char) : Option Anchor :=
  if name = ['s', 't', 'a', 'r', 't'] then some .wordStart
  else if name = ['e', 'n', 'd'] then some .wordEnd
  else if name = ['s', 't', 'a', 'r', 't', '-', 'h', 'a', 'l', 'f'] then some .wordStartHalf
  else if name = ['e', 'n', 'd', '-', 'h', 'a', 'l', 'f'] then some .wordEndHalf
  else none

/-- Reads a word boundary after `b`. A brace that cannot start the name of a boundary is left to
stand for a repetition. -/
def boundaryEscape (extended : Bool) (s : List Char) : Option (Anchor × List Char) :=
  match s with
  | '\x7b' :: r =>
    match skip extended r with
    | [] => none
    | c :: r' =>
      if isBoundaryChar c then
        let (name, rest) := boundaryName extended (r.length + 1) (c :: r')
        match rest with
        | '\x7d' :: rest => (boundaryOfName name).map fun a => (a, rest)
        | _ => none
      else some (.boundary, s)
  | s => some (.boundary, s)

/-- Reads an escape after the backslash. -/
def escape (extended : Bool) : List Char → Option (Atom × List Char)
  | [] => none
  | c :: r =>
    let letter (n : Nat) : Option (Atom × List Char) := some (.letter ⟨Char.ofNat n, false⟩, r)
    match c with
    | 'x' => (hexEscape extended 2 (skip extended r)).map fun (l, rest) => (.letter l, rest)
    | 'u' => (hexEscape extended 4 (skip extended r)).map fun (l, rest) => (.letter l, rest)
    | 'U' => (hexEscape extended 8 (skip extended r)).map fun (l, rest) => (.letter l, rest)
    | 'p' => (propertyEscape extended (skip extended r)).map fun (q, rest) =>
        (.property q false, rest)
    | 'P' => (propertyEscape extended (skip extended r)).map fun (q, rest) =>
        (.property q true, rest)
    | 'd' => some (.shorthand .digit false, r)
    | 's' => some (.shorthand .space false, r)
    | 'w' => some (.shorthand .word false, r)
    | 'D' => some (.shorthand .digit true, r)
    | 'S' => some (.shorthand .space true, r)
    | 'W' => some (.shorthand .word true, r)
    | 'a' => letter 0x07
    | 'f' => letter 0x0C
    | 't' => letter 0x09
    | 'n' => letter 0x0A
    | 'r' => letter 0x0D
    | 'v' => letter 0x0B
    | 'A' => some (.anchor .textStart, r)
    | 'z' => some (.anchor .textEnd, r)
    | 'b' => (boundaryEscape extended r).map fun (a, rest) => (.anchor a, rest)
    | 'B' => some (.anchor .noBoundary, r)
    | '<' => some (.anchor .wordStart, r)
    | '>' => some (.anchor .wordEnd, r)
    | c => if isEscapable c then letter c.toNat else none

/-! ## Classes in brackets -/

/-- The names of the ASCII classes. -/
def asciiClasses : List (String × AsciiClass) :=
  [("alnum", .alnum), ("alpha", .alpha), ("ascii", .ascii), ("blank", .blank),
   ("cntrl", .cntrl), ("digit", .digit), ("graph", .graph), ("lower", .lower),
   ("print", .print), ("punct", .punct), ("space", .space), ("upper", .upper),
   ("word", .word), ("xdigit", .xdigit)]

/-- Reads an ASCII class after its opening bracket. -/
def asciiClass? (s : List Char) : Option (ClassExpression × List Char) :=
  match s with
  | ':' :: r =>
    let (negated, r) := match r with
      | '^' :: r => (true, r)
      | r => (false, r)
    let name := r.takeWhile (· ≠ ':')
    (([':', ']'].isPrefixOf? (r.dropWhile (· ≠ ':')))).bind fun rest =>
      (asciiClasses.lookup (String.ofList name)).map fun c => (.ascii c negated, rest)
  | _ => none

/-- Reads one item of a class. -/
def classAtom (extended : Bool) : List Char → Option (Atom × List Char)
  | [] => none
  | '\\' :: r => escape extended r
  | c :: r => some (.letter ⟨c, false⟩, r)

/-- An item as a class of its own; places are no characters. -/
def classOfAtom : Atom → Option ClassExpression
  | .letter l => some (.letter l)
  | .shorthand s negated => some (.shorthand s negated)
  | .property q negated => some (.property q negated)
  | .anchor _ => none

/-- The range between two items, both of which must be single characters in order. -/
def classRange : Atom → Atom → Option ClassExpression
  | .letter a, .letter b => if a.char ≤ b.char then some (.range a b) else none
  | _, _ => none

/-- Reads an item or a range. A dash is a range only if neither a closing bracket nor another
dash follows. -/
def classItem (extended : Bool) (s : List Char) : Option (ClassExpression × List Char) :=
  (classAtom extended s).bind fun (first, rest) =>
    let rest := skip extended rest
    let next := peekAfter extended rest
    match rest with
    | [] => none
    | '-' :: r =>
      if next = some ']' ∨ next = some '-' then (classOfAtom first).map fun c => (c, rest)
      else
        (classAtom extended (skip extended r)).bind fun (last, rest) =>
          (classRange first last).map fun c => (c, rest)
    | _ => (classOfAtom first).map fun c => (c, rest)

/-- Reads dashes at the front of a class, each one a member. -/
def leadingDashes (extended : Bool) : (fuel : Nat) → List Char → List ClassExpression × List Char
  | 0, s => ([], s)
  | fuel + 1, s =>
    match s with
    | '-' :: r =>
      let (items, rest) := leadingDashes extended fuel (skip extended r)
      (.letter ⟨'-', false⟩ :: items, rest)
    | s => ([], s)

/-- Reads what may stand at the front of a class after its opening bracket: a negation, dashes, or
a closing bracket that is a member. The result holds whether the class is negated. -/
def classFront (extended : Bool) (s : List Char) :
    Bool × List ClassExpression × List Char :=
  let (negated, s) := match skip extended s with
    | '^' :: r => (true, skip extended r)
    | s => (false, s)
  let (dashes, s) := leadingDashes extended (s.length + 1) s
  match dashes, s with
  | [], ']' :: r => (negated, [.letter ⟨']', false⟩], skip extended r)
  | dashes, s => (negated, dashes, s)

/-- Closes the operand at the right of a pending operation. -/
def applyPending (pending : Option (ClassOperator × ClassExpression)) (operand : ClassExpression) :
    ClassExpression :=
  match pending with
  | some (operator, left) => .operation operator left operand
  | none => operand

/-- Reads the contents of a class up to its closing bracket. `items` are the members of the
current operand, the last one first. -/
def classBody (extended : Bool) : (fuel : Nat) →
    (pending : Option (ClassOperator × ClassExpression)) → (items : List ClassExpression) →
    List Char → Option (ClassExpression × List Char)
  | 0, _, _, _ => none
  | fuel + 1, pending, items, s =>
    let operand := applyPending pending (.ofItems items.reverse)
    let item (s : List Char) :=
      (classItem extended s).bind fun (c, rest) => classBody extended fuel pending (c :: items) rest
    match skip extended s with
    | [] => none
    | ']' :: r => some (operand, r)
    | '[' :: r =>
      match asciiClass? r with
      | some (c, rest) => classBody extended fuel pending (c :: items) rest
      | none =>
        let (negated, front, rest) := classFront extended r
        (classBody extended fuel none front.reverse rest).bind fun (inner, rest) =>
          classBody extended fuel pending (.bracketed negated inner :: items) rest
    | '&' :: '&' :: r => classBody extended fuel (some (.intersection, operand)) [] r
    | '-' :: '-' :: r => classBody extended fuel (some (.difference, operand)) [] r
    | '~' :: '~' :: r => classBody extended fuel (some (.symmetricDifference, operand)) [] r
    | s => item s

/-- Reads a class after its opening bracket. -/
def classAfterBracket (extended : Bool) (s : List Char) : Option (Expression × List Char) :=
  let (negated, front, rest) := classFront extended s
  (classBody extended (s.length + 1) none front.reverse rest).map fun (contents, rest) =>
    (.set negated contents, rest)

/-! ## Groups and flags -/

/-- The flag with a letter. -/
def flagOfLetter : Char → Option Flag
  | 'i' => some .caseInsensitive
  | 'm' => some .multiLine
  | 's' => some .dotMatchesLineFeed
  | 'U' => some .swapGreed
  | 'u' => some .unicode
  | 'R' => some .carriageReturn
  | 'x' => some .extended
  | _ => none

/-- Reads flags up to a colon or a closing parenthesis, which is left. Every flag stands once, and
a minus stands once and before a flag. -/
def flags (on : Bool) (changes : FlagChanges) : List Char → Option (FlagChanges × List Char)
  | [] => none
  | ':' :: r => some (changes, ':' :: r)
  | ')' :: r => some (changes, ')' :: r)
  | '-' :: r =>
    match r with
    | ':' :: _ | ')' :: _ => none
    | r => if on then flags false changes r else none
  | c :: r =>
    (flagOfLetter c).bind fun f =>
      if changes.any (·.1 = f) then none else flags on (changes ++ [(f, on)]) r

/-- Whether a character may stand in the name of a group. -/
def isGroupNameChar (first : Bool) (c : Char) : Bool :=
  if first then c = '_' || Unicode.Recent.isAlphabetic c
  else c = '_' || c = '.' || c = '[' || c = ']' || Unicode.Recent.isAlphanumeric c

/-- Reads the name of a group up to `>`. -/
def groupName (s : List Char) : Option (List Char × List Char) :=
  let name := s.takeWhile (· ≠ '>')
  match s.dropWhile (· ≠ '>'), name with
  | '>' :: rest, c :: cs =>
    if isGroupNameChar true c && cs.all (isGroupNameChar false) then some (name, rest) else none
  | _, _ => none

/-- What an opening parenthesis starts. -/
inductive Opening where
  | settings (changes : FlagChanges)
  | plain (changes : FlagChanges)
  | capture
  | named (name : List Char)

/-- Reads flags after a question mark, and what they apply to. -/
def flagOpening (s : List Char) : Option (Opening × List Char) :=
  (flags true [] s).bind fun (changes, rest) =>
    match rest with
    | ':' :: r => some (.plain changes, r)
    | ')' :: r => if changes = [] then none else some (.settings changes, r)
    | _ => none

/-- Reads what follows an opening parenthesis. -/
def opening (extended : Bool) (s : List Char) : Option (Opening × List Char) :=
  match skip extended s with
  | '?' :: 'P' :: '<' :: r => (groupName r).map fun (name, rest) => (.named name, rest)
  | '?' :: '<' :: '=' :: _ => none
  | '?' :: '<' :: '!' :: _ => none
  | '?' :: '<' :: r => (groupName r).map fun (name, rest) => (.named name, rest)
  | '?' :: r => flagOpening r
  | s => some (.capture, s)

/-- Whether extended mode is on after a change of flags. -/
def extendedAfter (extended : Bool) (changes : FlagChanges) : Bool :=
  (changes.lookup .extended).getD extended

/-! ## Repetitions -/

/-- Reads decimal digits, between which extended mode may skip. -/
def digits (extended : Bool) : (fuel : Nat) → List Char → List Char × List Char
  | 0, s => ([], s)
  | fuel + 1, s =>
    match s with
    | c :: r =>
      if c.isDigit then
        let (ds, rest) := digits extended fuel (skip extended r)
        (c :: ds, rest)
      else ([], s)
    | [] => ([], [])

/-- Skips blanks, which stand around counts in every mode. -/
def skipBlanks (extended : Bool) : (fuel : Nat) → List Char → List Char
  | 0, s => s
  | fuel + 1, s =>
    match s with
    | c :: r => if isBlank c then skipBlanks extended fuel (skip extended r) else s
    | [] => []

/-- Reads a count below `2 ^ 32`. -/
def count? (extended : Bool) (s : List Char) : Option Nat × List Char :=
  let (ds, rest) := digits extended (s.length + 1) (s.dropWhile isBlank)
  let n := ds.foldl (fun n c => 10 * n + (c.toNat - '0'.toNat)) 0
  (if ds = [] ∨ UInt32.size ≤ n then none else some n, skipBlanks extended (rest.length + 1) rest)

/-- Reads the counts of a repetition after its opening brace, up to its closing brace. -/
def bounds (extended : Bool) (s : List Char) : Option (Nat × Option Nat × List Char) :=
  let (first, rest) := count? extended (skip extended s)
  match rest with
  | '\x7d' :: r => first.map fun n => (n, some n, r)
  | ',' :: r =>
    match skip extended r with
    | '\x7d' :: r => first.map fun n => (n, none, r)
    | r =>
      let (second, rest) := count? extended r
      match rest, first, second with
      | '\x7d' :: r, some n, some m => if n ≤ m then some (n, some m, r) else none
      | _, _, _ => none
  | _ => none

/-- Whether a question mark makes a repetition prefer few rounds. -/
def laziness : List Char → Bool × List Char
  | '?' :: r => (true, r)
  | r => (false, r)

/-- Repeats the last item, which must be one that can be repeated. -/
def repeatLast (least : Nat) (most : Option Nat) (isLazy : Bool) :
    List Expression → Option (List Expression)
  | [] => none
  | .nothing :: _ => none
  | .setFlags _ :: _ => none
  | item :: items => some (.repetition item least most isLazy :: items)

/-! ## Expressions -/

/-- What has been read of a group: its finished branches and the items of the branch at hand, both
with the last one first, and whether extended mode is on. -/
structure Progress where
  extended : Bool
  branches : List Expression
  items : List Expression

/-- A group that is open, to be gone on with when the inner one is closed. -/
structure Progress.Frame where
  outer : Progress
  captures : Bool
  changes : FlagChanges

namespace Progress

/-- The start of a group. -/
def start (extended : Bool) : Progress := ⟨extended, [], []⟩

/-- The group with one more item. -/
def push (p : Progress) (item : Expression) : Progress := { p with items := item :: p.items }

/-- The group with its branch finished. -/
def endBranch (p : Progress) : Progress :=
  { p with branches := .ofItems p.items.reverse :: p.branches, items := [] }

/-- The expression of the whole group. -/
def finish (p : Progress) : Expression := .ofBranches p.endBranch.branches.reverse

end Progress

/-- Reads an expression to the end of the text. `frames` are the open groups, the innermost
first, and `names` the names of groups so far. -/
def expression : (fuel : Nat) → Progress → (frames : List Progress.Frame) →
    (names : List (List Char)) → List Char → Option Expression
  | 0, _, _, _, _ => none
  | fuel + 1, p, frames, names, s =>
    let go (p : Progress) (rest : List Char) := expression fuel p frames names rest
    let repetition (least : Nat) (most : Option Nat) (rest : List Char) :=
      let (isLazy, rest) := laziness rest
      (repeatLast least most isLazy p.items).bind fun items => go { p with items } rest
    match skip p.extended s with
    | [] =>
      match frames with
      | [] => some p.finish
      | _ :: _ => none
    | '(' :: r =>
      (opening p.extended r).bind fun (o, rest) =>
        match o with
        | .settings changes =>
          go { p.push (.setFlags changes) with extended := extendedAfter p.extended changes } rest
        | .plain changes =>
          expression fuel (.start (extendedAfter p.extended changes))
            (⟨p, false, changes⟩ :: frames) names rest
        | .capture => expression fuel (.start p.extended) (⟨p, true, []⟩ :: frames) names rest
        | .named name =>
          if names.contains name then none
          else expression fuel (.start p.extended) (⟨p, true, []⟩ :: frames) (name :: names) rest
    | ')' :: r =>
      match frames with
      | [] => none
      | f :: frames =>
        expression fuel (f.outer.push (.group f.captures f.changes p.finish)) frames names r
    | '|' :: r => go p.endBranch r
    | '[' :: r => (classAfterBracket p.extended r).bind fun (c, rest) => go (p.push c) rest
    | '?' :: r => repetition 0 (some 1) r
    | '*' :: r => repetition 0 none r
    | '+' :: r => repetition 1 none r
    | '\x7b' :: r =>
      (bounds p.extended r).bind fun (least, most, rest) =>
        repetition least most (skip p.extended rest)
    | '\\' :: r => (escape p.extended r).bind fun (a, rest) => go (p.push (.atom a)) rest
    | '.' :: r => go (p.push .dot) r
    | '^' :: r => go (p.push (.atom (.anchor .lineStart))) r
    | '$' :: r => go (p.push (.atom (.anchor .lineEnd))) r
    | c :: r => go (p.push (.atom (.letter ⟨c, false⟩))) r

/-- Reads an expression. -/
def read? (s : List Char) : Option Expression :=
  (expression (s.length + 1) (.start false) [] [] s).filter fun e =>
    e.depth ≤ Expression.maxDepth

end Sift.Regex.Reader
