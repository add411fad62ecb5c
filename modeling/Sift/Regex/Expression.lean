/-!
# Regular expressions as written

What a regular expression says before its flags are applied: letters, classes, repetitions,
groups and flag settings, as they stand in the text.

**Nesting.** `Expression.depth` counts how deep groups, repetitions, alternations, sequences and
classes stand in one another; expressions deeper than `Expression.maxDepth` are refused.
-/

namespace Sift.Regex

/-- A setting that parts of an expression can turn on and off. -/
inductive Flag where
  | caseInsensitive
  | multiLine
  | dotMatchesLineFeed
  | swapGreed
  | unicode
  | carriageReturn
  | extended
  deriving DecidableEq

/-- Flags that are turned on or off, in the order of the text. -/
abbrev FlagChanges := List (Flag × Bool)

/-- A place that is asserted without reading a character. -/
inductive Anchor where
  | lineStart
  | lineEnd
  | textStart
  | textEnd
  | boundary
  | noBoundary
  | wordStart
  | wordEnd
  | wordStartHalf
  | wordEndHalf
  deriving DecidableEq

/-- Classes with a name of one letter. -/
inductive Shorthand where
  | digit
  | space
  | word
  deriving DecidableEq

/-- Classes of ASCII characters with a name between colons. -/
inductive AsciiClass where
  | alnum | alpha | ascii | blank | cntrl | digit | graph
  | lower | print | punct | space | upper | word | xdigit
  deriving DecidableEq

/-- A Unicode class: a name on its own, or the characters for which a property has a value or, if
`differs` is set, has another one. -/
inductive PropertyQuery where
  | named (name : List Char)
  | valued (property value : List Char) (differs : Bool)

/-- A single character; `byte` marks one written as a byte in two hexadecimal digits. -/
structure Letter where
  char : Char
  byte : Bool

/-- What stands for one character or for none. -/
inductive Atom where
  | letter (l : Letter)
  | anchor (a : Anchor)
  | shorthand (s : Shorthand) (negated : Bool)
  | property (q : PropertyQuery) (negated : Bool)

/-- How two classes are combined. -/
inductive ClassOperator where
  | intersection
  | difference
  | symmetricDifference

/-- The contents of a class in brackets. -/
inductive ClassExpression where
  | nothing
  | letter (l : Letter)
  | range (first last : Letter)
  | ascii (c : AsciiClass) (negated : Bool)
  | shorthand (s : Shorthand) (negated : Bool)
  | property (q : PropertyQuery) (negated : Bool)
  | union (items : List ClassExpression)
  | bracketed (negated : Bool) (contents : ClassExpression)
  | operation (operator : ClassOperator) (left right : ClassExpression)

/-- An expression as written. A group captures unless it only sets flags, and a lazy repetition
prefers few rounds. -/
inductive Expression where
  | nothing
  | atom (a : Atom)
  | dot
  | set (negated : Bool) (contents : ClassExpression)
  | setFlags (changes : FlagChanges)
  | group (captures : Bool) (changes : FlagChanges) (inner : Expression)
  | repetition (inner : Expression) (least : Nat) (most : Option Nat) (isLazy : Bool)
  | sequence (items : List Expression)
  | alternation (branches : List Expression)

namespace ClassExpression

/-- A list of items as one class. -/
def ofItems : List ClassExpression → ClassExpression
  | [] => nothing
  | [item] => item
  | items => union items

mutual

/-- How deep classes stand in one another. -/
def depth : ClassExpression → Nat
  | union items => depthOfList items + 1
  | bracketed _ contents => contents.depth + 1
  | operation _ left right => max left.depth right.depth + 1
  | _ => 0

/-- The depth of the deepest class of a list. -/
def depthOfList : List ClassExpression → Nat
  | [] => 0
  | item :: rest => max item.depth (depthOfList rest)

end

end ClassExpression

namespace Expression

/-- The greatest depth that is accepted. -/
def maxDepth : Nat := 250

/-- Items one after the other as one expression. -/
def ofItems : List Expression → Expression
  | [] => nothing
  | [item] => item
  | items => sequence items

/-- Branches as one expression. -/
def ofBranches : List Expression → Expression
  | [branch] => branch
  | branches => alternation branches

mutual

/-- How deep the parts of an expression stand in one another. -/
def depth : Expression → Nat
  | set _ contents => contents.depth + 1
  | group _ _ inner => inner.depth + 1
  | repetition inner _ _ _ => inner.depth + 1
  | sequence items => depthOfList items + 1
  | alternation branches => depthOfList branches + 1
  | _ => 0

/-- The depth of the deepest expression of a list. -/
def depthOfList : List Expression → Nat
  | [] => 0
  | item :: rest => max item.depth (depthOfList rest)

end

end Expression

end Sift.Regex
