import Sift.Unicode.CodeSet
import Sift.Unicode.Boundary.Table

/-!
# Boundary classes

Whether a grapheme, a word or a sentence ends between two characters depends on the classes of the
characters around. Each of the three properties has classes of its own, named by their codes;
`Boundary.set` gives the members of a class.
-/

namespace Sift.Unicode

/-- What ends at a boundary. -/
inductive Boundary where
  | grapheme
  | word
  | sentence
  deriving DecidableEq

namespace Boundary

/-- The three kinds of boundaries. -/
def all : List Boundary := [grapheme, word, sentence]

/-- The names of the property that places the boundaries. -/
def names : Boundary → List String
  | grapheme => ["Grapheme_Cluster_Break", "GCB"]
  | word => ["Word_Break", "WB"]
  | sentence => ["Sentence_Break", "SB"]

/-- The names of every class that has members, its code first. -/
def classes : Boundary → List (List String)
  | grapheme =>
    [["CN", "Control"], ["CR"], ["EX", "Extend"], ["L"], ["LF"], ["LV"], ["LVT"],
     ["PP", "Prepend"], ["RI", "Regional_Indicator"], ["SM", "SpacingMark"], ["T"], ["V"],
     ["ZWJ"]]
  | word =>
    [["CR"], ["DQ", "Double_Quote"], ["EX", "ExtendNumLet"], ["Extend"], ["FO", "Format"],
     ["HL", "Hebrew_Letter"], ["KA", "Katakana"], ["LE", "ALetter"], ["LF"],
     ["MB", "MidNumLet"], ["ML", "MidLetter"], ["MN", "MidNum"], ["NL", "Newline"],
     ["NU", "Numeric"], ["RI", "Regional_Indicator"], ["SQ", "Single_Quote"], ["WSegSpace"],
     ["ZWJ"]]
  | sentence =>
    [["AT", "ATerm"], ["CL", "Close"], ["CR"], ["EX", "Extend"], ["FO", "Format"],
     ["LE", "OLetter"], ["LF"], ["LO", "Lower"], ["NU", "Numeric"], ["SC", "SContinue"],
     ["SE", "Sep"], ["SP", "Sp"], ["ST", "STerm"], ["UP", "Upper"]]

/-- The classes for the boundaries of graphemes. -/
def graphemeRuns : Runs String := Runs.read String.ofList graphemeTable

/-- The classes for the boundaries of words. -/
def wordRuns : Runs String := Runs.read String.ofList wordTable

/-- The classes for the boundaries of sentences. -/
def sentenceRuns : Runs String := Runs.read String.ofList sentenceTable

/-- The runs of equal class. -/
def runs : Boundary → Runs String
  | grapheme => graphemeRuns
  | word => wordRuns
  | sentence => sentenceRuns

/-- The characters of a class. -/
def set (b : Boundary) (code : String) : CodeSet :=
  (CodeSet.ofRanges (b.runs.ranges (· == code))).intersection CodeSet.everything

end Boundary

end Sift.Unicode
