import Sift.Unicode.CodeSet
import Sift.Unicode.Category.Table

/-!
# General categories

Every character has exactly one general category. `Category.ofChar` looks it up.
-/

namespace Sift.Unicode

/-- The general category of a character. -/
inductive Category where
  | lu | ll | lt | lm | lo
  | mn | mc | me
  | nd | nl | no
  | pc | pd | ps | pe | pi | pf | po
  | sm | sc | sk | so
  | zs | zl | zp
  | cc | cf | cs | co | cn
  deriving DecidableEq

namespace Category

/-- Every category with its two-letter code and its long names. -/
def names : List (Category × List String) :=
  [(lu, ["Lu", "Uppercase_Letter"]), (ll, ["Ll", "Lowercase_Letter"]),
   (lt, ["Lt", "Titlecase_Letter"]), (lm, ["Lm", "Modifier_Letter"]),
   (lo, ["Lo", "Other_Letter"]), (mn, ["Mn", "Nonspacing_Mark"]),
   (mc, ["Mc", "Spacing_Mark"]), (me, ["Me", "Enclosing_Mark"]),
   (nd, ["Nd", "Decimal_Number", "Digit"]), (nl, ["Nl", "Letter_Number"]),
   (no, ["No", "Other_Number"]), (pc, ["Pc", "Connector_Punctuation"]),
   (pd, ["Pd", "Dash_Punctuation"]), (ps, ["Ps", "Open_Punctuation"]),
   (pe, ["Pe", "Close_Punctuation"]), (pi, ["Pi", "Initial_Punctuation"]),
   (pf, ["Pf", "Final_Punctuation"]), (po, ["Po", "Other_Punctuation"]),
   (sm, ["Sm", "Math_Symbol"]), (sc, ["Sc", "Currency_Symbol"]),
   (sk, ["Sk", "Modifier_Symbol"]), (so, ["So", "Other_Symbol"]),
   (zs, ["Zs", "Space_Separator"]), (zl, ["Zl", "Line_Separator"]),
   (zp, ["Zp", "Paragraph_Separator"]), (cc, ["Cc", "Control", "Cntrl"]),
   (cf, ["Cf", "Format"]), (cs, ["Cs", "Surrogate"]),
   (co, ["Co", "Private_Use"]), (cn, ["Cn", "Unassigned"])]

/-- The groups of categories that have names of their own. -/
def groups : List (List Category × List String) :=
  [([lu, ll, lt], ["LC", "Cased_Letter"]),
   ([lu, ll, lt, lm, lo], ["L", "Letter"]),
   ([mn, mc, me], ["M", "Mark", "Combining_Mark"]),
   ([nd, nl, no], ["N", "Number"]),
   ([pc, pd, ps, pe, pi, pf, po], ["P", "Punctuation", "Punct"]),
   ([sm, sc, sk, so], ["S", "Symbol"]),
   ([zs, zl, zp], ["Z", "Separator"]),
   ([cc, cf, cs, co, cn], ["C", "Other"])]

/-- The category with a two-letter code. -/
def ofCode (code : List Char) : Category :=
  ((names.find? fun e => e.2.head? == some (String.ofList code)).map (·.1)).getD cn

/-- The runs of equal category. -/
def runs : Runs Category := Runs.read ofCode table

/-- The general category of a character. -/
def ofChar (c : Char) : Category := (runs.find? c).getD cn

/-- The characters whose category passes a test. -/
def setOf (keep : Category → Bool) : CodeSet :=
  (CodeSet.ofRanges (runs.ranges keep)).intersection CodeSet.everything

end Category

end Sift.Unicode
