import Sift.Unicode.CodeSet
import Sift.Unicode.Category
import Sift.Unicode.Property.Table

/-!
# Binary properties

Properties that a character has or lacks, `Property.holds`, and the characters that words are made
of, `wordSet`.
-/

namespace Sift.Unicode

/-- A binary property. -/
inductive Property where
  | alphabetic | asciiHexDigit | bidiControl
  | bidiMirrored | caseIgnorable | cased
  | changesWhenCasefolded | changesWhenCasemapped | changesWhenLowercased
  | changesWhenTitlecased | changesWhenUppercased | dash
  | defaultIgnorableCodePoint | deprecated | diacritic
  | emoji | emojiComponent | emojiModifier
  | emojiModifierBase | emojiPresentation | extendedPictographic
  | extender | graphemeBase | graphemeExtend
  | graphemeLink | hexDigit | hyphen
  | idCompatMathContinue | idCompatMathStart | idContinue
  | idStart | ideographic | idsBinaryOperator
  | idsTrinaryOperator | idsUnaryOperator | joinControl
  | logicalOrderException | lowercase | math
  | modifierCombiningMark | noncharacterCodePoint | otherAlphabetic
  | otherDefaultIgnorableCodePoint | otherGraphemeExtend | otherIdContinue
  | otherIdStart | otherLowercase | otherMath
  | otherUppercase | patternSyntax | patternWhiteSpace
  | prependedConcatenationMark | quotationMark | radical
  | regionalIndicator | sentenceTerminal | softDotted
  | terminalPunctuation | unifiedIdeograph | uppercase
  | variationSelector | whiteSpace | xidContinue
  | xidStart
  deriving DecidableEq

namespace Property

/-- Every property with its names. -/
def names : List (Property × List String) :=
  [(alphabetic, ["Alphabetic", "Alpha"]),
   (asciiHexDigit, ["ASCII_Hex_Digit", "AHex"]),
   (bidiControl, ["Bidi_Control", "Bidi_C"]),
   (bidiMirrored, ["Bidi_Mirrored", "Bidi_M"]),
   (caseIgnorable, ["Case_Ignorable", "CI"]),
   (cased, ["Cased"]),
   (changesWhenCasefolded, ["Changes_When_Casefolded", "CWCF"]),
   (changesWhenCasemapped, ["Changes_When_Casemapped", "CWCM"]),
   (changesWhenLowercased, ["Changes_When_Lowercased", "CWL"]),
   (changesWhenTitlecased, ["Changes_When_Titlecased", "CWT"]),
   (changesWhenUppercased, ["Changes_When_Uppercased", "CWU"]),
   (dash, ["Dash"]),
   (defaultIgnorableCodePoint, ["Default_Ignorable_Code_Point", "DI"]),
   (deprecated, ["Deprecated", "Dep"]),
   (diacritic, ["Diacritic", "Dia"]),
   (emoji, ["Emoji"]),
   (emojiComponent, ["Emoji_Component", "EComp"]),
   (emojiModifier, ["Emoji_Modifier", "EMod"]),
   (emojiModifierBase, ["Emoji_Modifier_Base", "EBase"]),
   (emojiPresentation, ["Emoji_Presentation", "EPres"]),
   (extendedPictographic, ["Extended_Pictographic", "ExtPict"]),
   (extender, ["Extender", "Ext"]),
   (graphemeBase, ["Grapheme_Base", "Gr_Base"]),
   (graphemeExtend, ["Grapheme_Extend", "Gr_Ext"]),
   (graphemeLink, ["Grapheme_Link", "Gr_Link"]),
   (hexDigit, ["Hex_Digit", "Hex"]),
   (hyphen, ["Hyphen"]),
   (idCompatMathContinue, ["ID_Compat_Math_Continue"]),
   (idCompatMathStart, ["ID_Compat_Math_Start"]),
   (idContinue, ["ID_Continue", "IDC"]),
   (idStart, ["ID_Start", "IDS"]),
   (ideographic, ["Ideographic", "Ideo"]),
   (idsBinaryOperator, ["IDS_Binary_Operator", "IDSB"]),
   (idsTrinaryOperator, ["IDS_Trinary_Operator", "IDST"]),
   (idsUnaryOperator, ["IDS_Unary_Operator", "IDSU"]),
   (joinControl, ["Join_Control", "Join_C"]),
   (logicalOrderException, ["Logical_Order_Exception", "LOE"]),
   (lowercase, ["Lowercase", "Lower"]),
   (math, ["Math"]),
   (modifierCombiningMark, ["Modifier_Combining_Mark", "MCM"]),
   (noncharacterCodePoint, ["Noncharacter_Code_Point", "NChar"]),
   (otherAlphabetic, ["Other_Alphabetic", "OAlpha"]),
   (otherDefaultIgnorableCodePoint, ["Other_Default_Ignorable_Code_Point", "ODI"]),
   (otherGraphemeExtend, ["Other_Grapheme_Extend", "OGr_Ext"]),
   (otherIdContinue, ["Other_ID_Continue", "OIDC"]),
   (otherIdStart, ["Other_ID_Start", "OIDS"]),
   (otherLowercase, ["Other_Lowercase", "OLower"]),
   (otherMath, ["Other_Math", "OMath"]),
   (otherUppercase, ["Other_Uppercase", "OUpper"]),
   (patternSyntax, ["Pattern_Syntax", "Pat_Syn"]),
   (patternWhiteSpace, ["Pattern_White_Space", "Pat_WS"]),
   (prependedConcatenationMark, ["Prepended_Concatenation_Mark", "PCM"]),
   (quotationMark, ["Quotation_Mark", "QMark"]),
   (radical, ["Radical"]),
   (regionalIndicator, ["Regional_Indicator", "RI"]),
   (sentenceTerminal, ["Sentence_Terminal", "STerm"]),
   (softDotted, ["Soft_Dotted", "SD"]),
   (terminalPunctuation, ["Terminal_Punctuation", "Term"]),
   (unifiedIdeograph, ["Unified_Ideograph", "UIdeo"]),
   (uppercase, ["Uppercase", "Upper"]),
   (variationSelector, ["Variation_Selector", "VS"]),
   (whiteSpace, ["White_Space", "WSpace", "Space"]),
   (xidContinue, ["XID_Continue", "XIDC"]),
   (xidStart, ["XID_Start", "XIDS"])]

/-- The boundaries of a property. -/
def text : Property → String
  | alphabetic => Table.alphabetic
  | asciiHexDigit => Table.asciiHexDigit
  | bidiControl => Table.bidiControl
  | bidiMirrored => Table.bidiMirrored
  | caseIgnorable => Table.caseIgnorable
  | cased => Table.cased
  | changesWhenCasefolded => Table.changesWhenCasefolded
  | changesWhenCasemapped => Table.changesWhenCasemapped
  | changesWhenLowercased => Table.changesWhenLowercased
  | changesWhenTitlecased => Table.changesWhenTitlecased
  | changesWhenUppercased => Table.changesWhenUppercased
  | dash => Table.dash
  | defaultIgnorableCodePoint => Table.defaultIgnorableCodePoint
  | deprecated => Table.deprecated
  | diacritic => Table.diacritic
  | emoji => Table.emoji
  | emojiComponent => Table.emojiComponent
  | emojiModifier => Table.emojiModifier
  | emojiModifierBase => Table.emojiModifierBase
  | emojiPresentation => Table.emojiPresentation
  | extendedPictographic => Table.extendedPictographic
  | extender => Table.extender
  | graphemeBase => Table.graphemeBase
  | graphemeExtend => Table.graphemeExtend
  | graphemeLink => Table.graphemeLink
  | hexDigit => Table.hexDigit
  | hyphen => Table.hyphen
  | idCompatMathContinue => Table.idCompatMathContinue
  | idCompatMathStart => Table.idCompatMathStart
  | idContinue => Table.idContinue
  | idStart => Table.idStart
  | ideographic => Table.ideographic
  | idsBinaryOperator => Table.idsBinaryOperator
  | idsTrinaryOperator => Table.idsTrinaryOperator
  | idsUnaryOperator => Table.idsUnaryOperator
  | joinControl => Table.joinControl
  | logicalOrderException => Table.logicalOrderException
  | lowercase => Table.lowercase
  | math => Table.math
  | modifierCombiningMark => Table.modifierCombiningMark
  | noncharacterCodePoint => Table.noncharacterCodePoint
  | otherAlphabetic => Table.otherAlphabetic
  | otherDefaultIgnorableCodePoint => Table.otherDefaultIgnorableCodePoint
  | otherGraphemeExtend => Table.otherGraphemeExtend
  | otherIdContinue => Table.otherIdContinue
  | otherIdStart => Table.otherIdStart
  | otherLowercase => Table.otherLowercase
  | otherMath => Table.otherMath
  | otherUppercase => Table.otherUppercase
  | patternSyntax => Table.patternSyntax
  | patternWhiteSpace => Table.patternWhiteSpace
  | prependedConcatenationMark => Table.prependedConcatenationMark
  | quotationMark => Table.quotationMark
  | radical => Table.radical
  | regionalIndicator => Table.regionalIndicator
  | sentenceTerminal => Table.sentenceTerminal
  | softDotted => Table.softDotted
  | terminalPunctuation => Table.terminalPunctuation
  | unifiedIdeograph => Table.unifiedIdeograph
  | uppercase => Table.uppercase
  | variationSelector => Table.variationSelector
  | whiteSpace => Table.whiteSpace
  | xidContinue => Table.xidContinue
  | xidStart => Table.xidStart

/-- The sets of all properties, read once. -/
def sets : Array CodeSet := (names.map fun e => CodeSet.read e.1.text).toArray

/-- The set of characters with a property. -/
def set (p : Property) : CodeSet :=
  ((names.findIdx? fun e => e.1 == p).bind fun i => sets[i]?).getD ⟨#[]⟩

/-- Whether a character has a property. -/
def holds (p : Property) (c : Char) : Bool := p.set.contains c

end Property

/-- The characters of words: letters, marks, decimal digits, connecting marks and joiners. -/
def wordSet : CodeSet :=
  (Property.alphabetic.set.union Property.joinControl.set).union
    (Category.setOf fun g => g = .mn || g = .mc || g = .me || g = .nd || g = .pc)

/-- Whether a character belongs to a word. -/
def isWord (c : Char) : Bool := wordSet.contains c

end Sift.Unicode
