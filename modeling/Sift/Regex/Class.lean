import Sift.Regex.Expression
import Sift.Unicode.Age
import Sift.Unicode.Boundary
import Sift.Unicode.CaseVariant
import Sift.Unicode.Property
import Sift.Unicode.Script

/-!
# The characters of classes

What a class denotes under given flags, as a set of code points. Under the flag `i` a class is
first closed under case variants and then negated. Without the flag `u` a class is limited to
ASCII characters, so that it can be neither negated nor given by a property.
-/

namespace Sift.Regex

open Sift.Unicode

/-- The flags in force at a place of an expression. -/
structure Flags where
  caseInsensitive : Bool
  multiLine : Bool
  dotMatchesLineFeed : Bool
  swapGreed : Bool
  unicode : Bool
  carriageReturn : Bool

/-- The flags at the start of an expression. -/
def Flags.initial : Flags := ⟨false, false, false, false, true, false⟩

/-- Turns a flag on or off. -/
def Flags.set (f : Flags) : Flag × Bool → Flags
  | (.caseInsensitive, b) => { f with caseInsensitive := b }
  | (.multiLine, b) => { f with multiLine := b }
  | (.dotMatchesLineFeed, b) => { f with dotMatchesLineFeed := b }
  | (.unicode, b) => { f with unicode := b }
  | (.carriageReturn, b) => { f with carriageReturn := b }
  | (.swapGreed, b) => { f with swapGreed := b }
  | (.extended, _) => f

/-- Turns flags on and off, one after the other. -/
def Flags.apply (f : Flags) (changes : FlagChanges) : Flags := changes.foldl Flags.set f

/-! ## Named classes -/

/-- The members of an ASCII class. -/
def AsciiClass.set : AsciiClass → CodeSet
  | alnum => .ofRanges [(0x30, 0x39), (0x41, 0x5A), (0x61, 0x7A)]
  | alpha => .ofRanges [(0x41, 0x5A), (0x61, 0x7A)]
  | ascii => .range 0 0x7F
  | blank => .ofRanges [(0x09, 0x09), (0x20, 0x20)]
  | cntrl => .ofRanges [(0, 0x1F), (0x7F, 0x7F)]
  | digit => .range 0x30 0x39
  | graph => .range 0x21 0x7E
  | lower => .range 0x61 0x7A
  | print => .range 0x20 0x7E
  | punct => .ofRanges [(0x21, 0x2F), (0x3A, 0x40), (0x5B, 0x60), (0x7B, 0x7E)]
  | space => .ofRanges [(0x09, 0x0D), (0x20, 0x20)]
  | upper => .range 0x41 0x5A
  | word => .ofRanges [(0x30, 0x39), (0x41, 0x5A), (0x5F, 0x5F), (0x61, 0x7A)]
  | xdigit => .ofRanges [(0x30, 0x39), (0x41, 0x46), (0x61, 0x66)]

/-- The decimal digits of all scripts. -/
def decimalDigits : CodeSet := Category.setOf (· = .nd)

/-- The blank characters. -/
def blanks : CodeSet := Property.whiteSpace.set

/-- The members of a class with a one-letter name. -/
def Shorthand.set (unicode : Bool) : Shorthand → CodeSet
  | digit => if unicode then decimalDigits else AsciiClass.digit.set
  | space => if unicode then blanks else AsciiClass.space.set
  | word => if unicode then wordSet else AsciiClass.word.set

/-! ## Properties -/

/-- The name without what does not tell names apart: case, blanks, dashes, low lines, and the
word `is` in front. -/
def looseName (name : List Char) : List Char :=
  let lower := name.map Char.toLower
  let (isWord, rest) := match lower with
    | 'i' :: 's' :: r => (true, r)
    | r => (false, r)
  let kept := rest.filter fun c => c ≠ ' ' ∧ c ≠ '_' ∧ c ≠ '-' ∧ c.toNat < 0x80
  if isWord ∧ kept = ['c'] then ['i', 's', 'c'] else kept

/-- Whether a loose name is among the given names. -/
def isAmong (loose : List Char) (names : List String) : Bool :=
  names.any fun n => looseName n.toList = loose

/-- The set of a general category, a group of categories, or one of three further sets. No
character is a surrogate, so that this category cannot be asked for. -/
def categorySet? (loose : List Char) : Option CodeSet :=
  if isAmong loose ["Any"] then some .everything
  else if isAmong loose ["ASCII"] then some AsciiClass.ascii.set
  else if isAmong loose ["Assigned"] then some (Category.setOf (· ≠ .cn))
  else
    match Category.names.find? fun e => isAmong loose e.2 with
    | some (.cs, _) => none
    | some (g, _) => some (Category.setOf (· = g))
    | none => (Category.groups.find? fun e => isAmong loose e.2).map fun e =>
        Category.setOf e.1.contains

/-- The code of a script. -/
def scriptCode? (loose : List Char) : Option String :=
  (Script.allNames.find? (isAmong loose)).bind List.head?

/-- The set of a binary property. The abbreviations of three categories take precedence. -/
def binarySet? (loose : List Char) : Option CodeSet :=
  if isAmong loose ["cf", "sc", "lc"] then none
  else (Property.names.find? fun e => isAmong loose e.2).map fun e => e.1.set

/-- The set of the characters that a version of the standard knows. -/
def ageSet? (loose : List Char) : Option CodeSet :=
  (Age.versions.find? fun v => isAmong loose (Age.names v)).map Age.upTo

/-- The set of a boundary class. -/
def boundarySet? (b : Boundary) (loose : List Char) : Option CodeSet :=
  ((b.classes.find? (isAmong loose)).bind List.head?).map b.set

/-- The set of the characters for which a property has a value. -/
def valueSet? (property value : List Char) : Option CodeSet :=
  if isAmong property ["General_Category", "gc"] then categorySet? value
  else if isAmong property ["Script", "sc"] then (scriptCode? value).map Script.set
  else if isAmong property ["Script_Extensions", "scx"] then
    (scriptCode? value).map Script.extendedSet
  else if isAmong property ["Age"] then ageSet? value
  else (Boundary.all.find? fun b => isAmong property b.names).bind fun b => boundarySet? b value

/-- The set of the name or the value in a property query. -/
def PropertyQuery.set? : PropertyQuery → Option CodeSet
  | named name =>
    let loose := looseName name
    binarySet? loose <|> categorySet? loose <|> (scriptCode? loose).map Script.set
  | valued property value _ => valueSet? (looseName property) (looseName value)

/-- Whether a property query asks for the characters outside its set. -/
def PropertyQuery.isNegated : PropertyQuery → Bool
  | named _ => false
  | valued _ _ differs => differs

/-! ## Classes under flags -/

/-- The set with all case variants that the flags know. -/
def Flags.fold (f : Flags) (s : CodeSet) : CodeSet :=
  if !f.caseInsensitive then s
  else if f.unicode then CaseVariant.closure s
  else
    let letters := (AsciiClass.alpha.set.ranges.flatMap fun r =>
      (List.range (r.2 + 1 - r.1)).map (r.1 + ·)).filter fun n =>
        s.contains (Char.ofNat n) || s.contains (Char.ofNat (n ^^^ 0x20))
    s.union (.ofRanges (letters.map fun n => (n, n)))

/-- The set or its complement, which only exists with the flag `u`. -/
def Flags.negate? (f : Flags) (negated : Bool) (s : CodeSet) : Option CodeSet :=
  if !negated then some s
  else if f.unicode then some s.complement
  else none

/-- The set, closed under case variants and then negated. -/
def Flags.foldAndNegate? (f : Flags) (negated : Bool) (s : CodeSet) : Option CodeSet :=
  f.negate? negated (f.fold s)

/-- The code point of a letter in a class. -/
def Letter.code? (f : Flags) (l : Letter) : Option Nat :=
  if f.unicode ∨ l.char.toNat < 0x80 then some l.char.toNat else none

/-- The set of a property, which only exists with the flag `u`. -/
def PropertyQuery.under? (f : Flags) (negated : Bool) (q : PropertyQuery) : Option CodeSet :=
  if f.unicode then q.set?.bind (f.foldAndNegate? (negated != q.isNegated)) else none

/-- The operation on sets. -/
def ClassOperator.run : ClassOperator → CodeSet → CodeSet → CodeSet
  | intersection => .intersection
  | difference => .difference
  | symmetricDifference => .symmetricDifference

namespace ClassExpression

mutual

/-- The set that the contents of a class denote. -/
def set? (f : Flags) : ClassExpression → Option CodeSet
  | nothing => some .empty
  | letter l => (l.code? f).map fun n => .range n n
  | range a b => (a.code? f).bind fun m => (b.code? f).map fun n => .range m n
  | ascii c negated => f.foldAndNegate? negated c.set
  | shorthand s negated => f.negate? negated (s.set f.unicode)
  | property q negated => q.under? f negated
  | union items => unionOf? f items
  | bracketed negated contents => (set? f contents).bind (f.foldAndNegate? negated)
  | operation operator left right =>
    (set? f left).bind fun a => (set? f right).map fun b =>
      operator.run (f.fold a) (f.fold b)

/-- The union of the sets of a list. -/
def unionOf? (f : Flags) : List ClassExpression → Option CodeSet
  | [] => some .empty
  | item :: rest => (set? f item).bind fun a => (unionOf? f rest).map a.union

end

end ClassExpression

end Sift.Regex
