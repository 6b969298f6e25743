import Precompiled.Text.CaseFold
import Precompiled.Text.Letter
import Precompiled.Text.Property.Category

/-!
# Properties of letters

Letters, their case, and what a change of case does to them.
-/

namespace Precompiled.Text.Property

def otherLowercase : CharSet :=
  [(0xAA, 0xAA), (0xBA, 0xBA), (0x2B0, 0x2B8), (0x2C0, 0x2C1), (0x2E0, 0x2E4), (0x345, 0x345),
   (0x37A, 0x37A), (0x10FC, 0x10FC), (0x1D2C, 0x1D6A), (0x1D78, 0x1D78), (0x1D9B, 0x1DBF),
   (0x2071, 0x2071), (0x207F, 0x207F), (0x2090, 0x209C), (0x2170, 0x217F), (0x24D0, 0x24E9),
   (0x2C7C, 0x2C7D), (0xA69C, 0xA69D), (0xA770, 0xA770), (0xA7F2, 0xA7F4), (0xA7F8, 0xA7F9),
   (0xAB5C, 0xAB5F), (0xAB69, 0xAB69), (0x10780, 0x10780), (0x10783, 0x10785), (0x10787, 0x107B0),
   (0x107B2, 0x107BA), (0x1E030, 0x1E06D)]

def otherUppercase : CharSet :=
  [(0x2160, 0x216F), (0x24B6, 0x24CF), (0x1F130, 0x1F149), (0x1F150, 0x1F169), (0x1F170, 0x1F189)]

def otherAlphabetic : CharSet := CharSet.otherAlphabetic.before17

def alphabetic : CharSet := CharSet.alphabetic.before17

def lowercase : CharSet := (ofCategory .lowercaseLetter).union otherLowercase

def uppercase : CharSet := (ofCategory .uppercaseLetter).union otherUppercase

def titlecase : CharSet := ofCategory .titlecaseLetter

def cased : CharSet := CharSet.ofRuns (lowercase ++ uppercase ++ titlecase)

/-- What does not keep letters around it from being those of one word in one case. -/
def caseIgnorable : CharSet :=
  CharSet.ofRuns (ofCategories [.nonspacingMark, .enclosingMark, .format, .modifierLetter,
    .modifierSymbol] ++
    [(0x27, 0x27), (0x2E, 0x2E), (0x3A, 0x3A), (0xB7, 0xB7), (0x387, 0x387), (0x55F, 0x55F),
     (0x5F4, 0x5F4), (0x2018, 0x2019), (0x2024, 0x2024), (0x2027, 0x2027), (0xFE13, 0xFE13),
     (0xFE52, 0xFE52), (0xFE55, 0xFE55), (0xFF07, 0xFF07), (0xFF0E, 0xFF0E), (0xFF1A, 0xFF1A)])

def paired : CharSet := CharSet.ofRuns (caseVariants.flatten.map fun n => (n, n))

/-- The small letters of Georgian, which are no capitals in titles. -/
def georgianLetters : CharSet := [(0x10D0, 0x10FA), (0x10FD, 0x10FF)]

/-- Small letters whose capitals are not theirs alone: those with capitals of several characters,
and the i without a dot. -/
def oddCapitals : CharSet :=
  [(0x131, 0x131), (0x149, 0x149), (0x1F0, 0x1F0), (0x587, 0x587), (0x1E96, 0x1E9A),
   (0x1F50, 0x1F50), (0x1F52, 0x1F52), (0x1F54, 0x1F54), (0x1F56, 0x1F56), (0x1FB2, 0x1FB2),
   (0x1FB4, 0x1FB4), (0x1FB6, 0x1FB7), (0x1FC2, 0x1FC2), (0x1FC4, 0x1FC4), (0x1FC6, 0x1FC7),
   (0x1FD2, 0x1FD2), (0x1FD6, 0x1FD7), (0x1FE2, 0x1FE2), (0x1FE4, 0x1FE4), (0x1FE6, 0x1FE7),
   (0x1FF2, 0x1FF2), (0x1FF4, 0x1FF4), (0x1FF6, 0x1FF7), (0xFB00, 0xFB04), (0xFB13, 0xFB17)]

/-- What has another form in small letters. The capital i with a dot turns into two characters. -/
def changesWhenLowercased : CharSet :=
  ((uppercase.union titlecase).inter paired).union [(0x130, 0x130)]

def changesWhenUppercased : CharSet :=
  ((lowercase.union titlecase).inter paired).union oddCapitals

def changesWhenTitlecased : CharSet :=
  CharSet.ofRuns ((lowercase.inter paired).diff georgianLetters ++ oddCapitals ++
    [(0x1C4, 0x1C4), (0x1C7, 0x1C7), (0x1CA, 0x1CA), (0x1F1, 0x1F1)])

def changesWhenCasemapped : CharSet :=
  CharSet.ofRuns (changesWhenLowercased ++ changesWhenUppercased ++ changesWhenTitlecased)

/-- The capitals of Cherokee, which stand for both cases of a letter. -/
def cherokeeLetters : CharSet := [(0x13A0, 0x13F5)]

def changesWhenCasefolded : CharSet :=
  CharSet.ofRuns (changesWhenLowercased.diff cherokeeLetters ++
    [(0xB5, 0xB5), (0xDF, 0xDF), (0x149, 0x149), (0x17F, 0x17F), (0x345, 0x345), (0x3C2, 0x3C2),
     (0x3D0, 0x3D1), (0x3D5, 0x3D6), (0x3F0, 0x3F1), (0x3F5, 0x3F5), (0x587, 0x587),
     (0x13F8, 0x13FD), (0x1C80, 0x1C88), (0x1E9A, 0x1E9B), (0x1F80, 0x1F87), (0x1F90, 0x1F97),
     (0x1FA0, 0x1FA7), (0x1FB2, 0x1FB4), (0x1FB7, 0x1FB7), (0x1FC2, 0x1FC4), (0x1FC7, 0x1FC7),
     (0x1FF2, 0x1FF4), (0x1FF7, 0x1FF7), (0xAB70, 0xABBF), (0xFB00, 0xFB06), (0xFB13, 0xFB17)])

def softDotted : CharSet :=
  [(0x69, 0x6A), (0x12F, 0x12F), (0x249, 0x249), (0x268, 0x268), (0x29D, 0x29D), (0x2B2, 0x2B2),
   (0x3F3, 0x3F3), (0x456, 0x456), (0x458, 0x458), (0x1D62, 0x1D62), (0x1D96, 0x1D96),
   (0x1DA4, 0x1DA4), (0x1DA8, 0x1DA8), (0x1E2D, 0x1E2D), (0x1ECB, 0x1ECB), (0x2071, 0x2071),
   (0x2148, 0x2149), (0x2C7C, 0x2C7C), (0x1D422, 0x1D423), (0x1D456, 0x1D457), (0x1D48A, 0x1D48B),
   (0x1D4BE, 0x1D4BF), (0x1D4F2, 0x1D4F3), (0x1D526, 0x1D527), (0x1D55A, 0x1D55B),
   (0x1D58E, 0x1D58F), (0x1D5C2, 0x1D5C3), (0x1D5F6, 0x1D5F7), (0x1D62A, 0x1D62B),
   (0x1D65E, 0x1D65F), (0x1D692, 0x1D693), (0x1DF1A, 0x1DF1A), (0x1E04C, 0x1E04D),
   (0x1E068, 0x1E068)]

end Precompiled.Text.Property
