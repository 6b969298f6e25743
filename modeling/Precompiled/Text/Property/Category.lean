import Precompiled.Text.Age
import Precompiled.Text.Category

/-!
# Categories in Unicode 16.0

The modules of properties tell what they were in Unicode 16.0. General categories come first, since
most properties build on them: the later version added characters and moved a single letter.
-/

namespace Precompiled.Text.Property

/-- The letter whose category changed from that of small letters to that of other letters. -/
def movedLetter : CharSet := [(0x295, 0x295)]

def ofCategory : Category → CharSet
  | .lowercaseLetter => Category.lowercaseLetter.set.before17.union movedLetter
  | .otherLetter => Category.otherLetter.set.before17.diff movedLetter
  | .unassigned => Category.unassigned.set.union CharSet.added17
  | category => category.set.before17

def ofCategories (categories : List Category) : CharSet :=
  CharSet.ofRuns (categories.flatMap ofCategory)

end Precompiled.Text.Property
