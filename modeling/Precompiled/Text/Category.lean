import Precompiled.Text.CharSet.Letters
import Precompiled.Text.CharSet.Marks
import Precompiled.Text.CharSet.Numbers
import Precompiled.Text.CharSet.Punctuation
import Precompiled.Text.CharSet.Separators
import Precompiled.Text.CharSet.Symbols

/-!
# General categories

The Unicode property General_Category, which puts every code point into one category.
-/

namespace Precompiled.Text

inductive Category where
  | uppercaseLetter
  | lowercaseLetter
  | titlecaseLetter
  | modifierLetter
  | otherLetter
  | nonspacingMark
  | spacingMark
  | enclosingMark
  | decimalNumber
  | letterNumber
  | otherNumber
  | connectorPunctuation
  | dashPunctuation
  | openPunctuation
  | closePunctuation
  | initialPunctuation
  | finalPunctuation
  | otherPunctuation
  | mathSymbol
  | currencySymbol
  | modifierSymbol
  | otherSymbol
  | spaceSeparator
  | lineSeparator
  | paragraphSeparator
  | control
  | format
  | surrogate
  | privateUse
  | unassigned
  deriving DecidableEq, Repr

namespace Category

def letters : List Category :=
  [.uppercaseLetter, .lowercaseLetter, .titlecaseLetter, .modifierLetter, .otherLetter]

def marks : List Category := [.nonspacingMark, .spacingMark, .enclosingMark]

def numbers : List Category := [.decimalNumber, .letterNumber, .otherNumber]

def punctuation : List Category :=
  [.connectorPunctuation, .dashPunctuation, .openPunctuation, .closePunctuation,
   .initialPunctuation, .finalPunctuation, .otherPunctuation]

def symbols : List Category := [.mathSymbol, .currencySymbol, .modifierSymbol, .otherSymbol]

def separators : List Category := [.spaceSeparator, .lineSeparator, .paragraphSeparator]

def assigned : List Category :=
  letters ++ marks ++ numbers ++ punctuation ++ symbols ++ separators ++
    [.control, .format, .surrogate, .privateUse]

def assignedSet : Category → CharSet
  | .uppercaseLetter => CharSet.uppercaseLetters
  | .lowercaseLetter => CharSet.lowercaseLetters
  | .titlecaseLetter => CharSet.titlecaseLetters
  | .modifierLetter => CharSet.modifierLetters
  | .otherLetter => CharSet.otherLetters
  | .nonspacingMark => CharSet.nonspacingMarks
  | .spacingMark => CharSet.spacingMarks
  | .enclosingMark => CharSet.enclosingMarks
  | .decimalNumber => CharSet.decimalNumbers
  | .letterNumber => CharSet.letterNumbers
  | .otherNumber => CharSet.otherNumbers
  | .connectorPunctuation => CharSet.connectorPunctuation
  | .dashPunctuation => CharSet.dashPunctuation
  | .openPunctuation => CharSet.openPunctuation
  | .closePunctuation => CharSet.closePunctuation
  | .initialPunctuation => CharSet.initialPunctuation
  | .finalPunctuation => CharSet.finalPunctuation
  | .otherPunctuation => CharSet.otherPunctuation
  | .mathSymbol => CharSet.mathSymbols
  | .currencySymbol => CharSet.currencySymbols
  | .modifierSymbol => CharSet.modifierSymbols
  | .otherSymbol => CharSet.otherSymbols
  | .spaceSeparator => CharSet.spaceSeparators
  | .lineSeparator => CharSet.lineSeparators
  | .paragraphSeparator => CharSet.paragraphSeparators
  | .control => CharSet.controls
  | .format => CharSet.formats
  | .surrogate => CharSet.surrogates
  | .privateUse => CharSet.privateUse
  | .unassigned => []

/-- The code points of some categories, all of them of what is assigned. -/
def setOf (categories : List Category) : CharSet :=
  CharSet.ofRuns (categories.flatMap assignedSet)

def set : Category → CharSet
  | .unassigned => CharSet.complement CharSet.lastCodePoint (setOf assigned)
  | category => category.assignedSet

def ofChar (c : Char) : Category := (assigned.find? (·.assignedSet.has c)).getD .unassigned

end Category
end Precompiled.Text
