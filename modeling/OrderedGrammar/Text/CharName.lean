import OrderedGrammar.Text.CharName.Formed
import OrderedGrammar.Text.CharName.European
import OrderedGrammar.Text.CharName.Asian
import OrderedGrammar.Text.CharName.Syllabic
import OrderedGrammar.Text.CharName.Extended
import OrderedGrammar.Text.CharName.Symbol
import OrderedGrammar.Text.CharName.Dingbat
import OrderedGrammar.Text.CharName.EastAsian
import OrderedGrammar.Text.CharName.Regional
import OrderedGrammar.Text.CharName.Presentation
import OrderedGrammar.Text.CharName.Ancient
import OrderedGrammar.Text.CharName.Hieroglyph
import OrderedGrammar.Text.CharName.Notation
import OrderedGrammar.Text.CharName.Pictograph
import OrderedGrammar.Text.CharName.Supplement
import OrderedGrammar.Text.CharName.Alias

/-!
# Characters by name

`charOfName?` finds the character that has a name.  Capital and small letters are alike in a name,
except in the names of Hangul syllables and unified ideographs, which are in capitals.
-/

namespace OrderedGrammar.Text

namespace CharName

/-- All tables of names. -/
def tables : List (List NameRun) :=
  [europeanNames, asianNames, syllabicNames, extendedNames, symbolNames, dingbatNames,
   eastAsianNames, regionalNames, presentationNames, ancientNames, hieroglyphNames,
   notationalNames, pictographNames, supplementNames, aliases]

end CharName

/-- The code point of the character that has the name. -/
def charOfName? (name : List Char) : Option Nat :=
  let capitals := name.map Char.toUpper
  CharName.syllableOrIdeograph? name <|> CharName.groupMember? capitals <|>
    CharName.tables.findSome? (CharName.find? · capitals)

end OrderedGrammar.Text
