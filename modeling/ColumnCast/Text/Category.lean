import ColumnCast.Text.Category.Ranges

/-!
# General categories

`Category` names the general categories of characters and `Category.contains` decides to which
a character belongs. From them come the printable characters, which quoted text shows as they
are, and the characters of words.
-/

namespace ColumnCast

/-- The general categories. -/
inductive Category where
  | upperLetter
  | lowerLetter
  | titleLetter
  | modifierLetter
  | otherLetter
  | nonspacingMark
  | spacingMark
  | enclosingMark
  | decimalDigit
  | letterNumber
  | otherNumber
  | connector
  | dash
  | opening
  | closing
  | initialQuote
  | finalQuote
  | otherPunctuation
  | mathSymbol
  | currencySymbol
  | modifierSymbol
  | otherSymbol
  | space
  | lineSeparator
  | paragraphSeparator
  | control
  | format
  | surrogate
  | privateUse
  | unassigned
  deriving DecidableEq

namespace Category

/-! ### Groups -/

/-- The categories of letters. -/
def letters : List Category :=
  [upperLetter, lowerLetter, titleLetter, modifierLetter, otherLetter]

/-- The categories of marks. -/
def marks : List Category :=
  [nonspacingMark, spacingMark, enclosingMark]

/-- The categories of numbers. -/
def numbers : List Category :=
  [decimalDigit, letterNumber, otherNumber]

/-- The categories of punctuation. -/
def punctuation : List Category :=
  [connector, dash, opening, closing, initialQuote, finalQuote, otherPunctuation]

/-- The categories of symbols. -/
def symbols : List Category :=
  [mathSymbol, currencySymbol, modifierSymbol, otherSymbol]

/-- The categories of separators. -/
def separators : List Category :=
  [space, lineSeparator, paragraphSeparator]

/-- The categories of characters that show. -/
def visible : List Category :=
  letters ++ marks ++ numbers ++ punctuation ++ symbols

/-- Every category but the one of the code points without a character. -/
def assigned : List Category :=
  visible ++ separators ++ [control, format, surrogate, privateUse]

/-- The categories of what is no character in the narrow sense. -/
def others : List Category :=
  [control, format, surrogate, privateUse, unassigned]

/-! ### Membership -/

/-- The ranges of a category outside the runs of `casePairs`. -/
def ranges : Category → List (Nat × Nat)
  | upperLetter => upperLetters
  | lowerLetter => lowerLetters
  | titleLetter => titleLetters
  | modifierLetter => modifierLetters
  | otherLetter => otherLetters
  | nonspacingMark => nonspacingMarks
  | spacingMark => spacingMarks
  | enclosingMark => enclosingMarks
  | decimalDigit => decimalDigits
  | letterNumber => letterNumbers
  | otherNumber => otherNumbers
  | connector => connectors
  | dash => dashes
  | opening => openings
  | closing => closings
  | initialQuote => initialQuotes
  | finalQuote => finalQuotes
  | otherPunctuation => otherPunctuations
  | mathSymbol => mathSymbols
  | currencySymbol => currencySymbols
  | modifierSymbol => modifierSymbols
  | otherSymbol => otherSymbols
  | space => spaces
  | lineSeparator => lineSeparators
  | paragraphSeparator => paragraphSeparators
  | control => controls
  | format => formats
  | surrogate => surrogates
  | privateUse => privateUses
  | unassigned => []

/-- A character lies in one of these ranges. -/
def within (ranges : List (Nat × Nat)) (c : Char) : Bool :=
  ranges.any fun (low, high) => low ≤ c.toNat && c.toNat ≤ high

/-- A character stands in a run of `casePairs`, an even or an odd number of places behind the
beginning. -/
def inPairs (parity : Nat) (c : Char) : Bool :=
  casePairs.any fun (low, high) =>
    low ≤ c.toNat && c.toNat ≤ high && (c.toNat - low) % 2 = parity

/-- A character belongs to an assigned category. -/
def listed (k : Category) (c : Char) : Bool :=
  within k.ranges c || (k = upperLetter && inPairs 0 c) || (k = lowerLetter && inPairs 1 c)

/-- A character belongs to a category. -/
def contains (k : Category) (c : Char) : Bool :=
  if k = unassigned then assigned.all fun other => !other.listed c else k.listed c

end Category

namespace Text

/-- A **printable** character stands for itself in quoted text. -/
def isPrintable (c : Char) : Bool :=
  (0x20 ≤ c.toNat && c.toNat ≤ 0x7E) || Category.visible.any fun k => k.contains c

/-- Symbols that are made of letters: the letters in circles and in squares. -/
def letterSymbolRanges : List (Nat × Nat) :=
  [(0x24B6, 0x24E9), (0x1F130, 0x1F149), (0x1F150, 0x1F169), (0x1F170, 0x1F189)]

/-- The two characters that join their neighbours or keep them apart without showing. -/
def joinerRange : Nat × Nat := (0x200C, 0x200D)

/-- A decimal digit of any script. -/
def isDigit (c : Char) : Bool :=
  c.isDigit || (0x80 ≤ c.toNat && Category.decimalDigit.contains c)

/-- A letter, or a number or symbol that is made of letters. -/
def isLetter (c : Char) : Bool :=
  c.isAlpha || (0x80 ≤ c.toNat &&
    ((Category.letterNumber :: Category.letters).any (fun k => k.contains c) ||
      Category.within letterSymbolRanges c))

/-- A character of words: a letter, a mark, a decimal digit, a connector or a joiner. -/
def isWord (c : Char) : Bool :=
  c.isAlphanum || c = '_' || (0x80 ≤ c.toNat &&
    (isLetter c || isDigit c || Category.within [joinerRange] c ||
      (Category.connector :: Category.marks).any fun k => k.contains c))

end Text

end ColumnCast
