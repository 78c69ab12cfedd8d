import Lexicon.Text.Category
import Lexicon.Text.Script
import Lexicon.Text.Trait

/-! Properties of characters that are given by tables. -/

set_option autoImplicit false

namespace Lexicon.Text

inductive Property where
  | category (category : Category)
  | script (name : String)
  | trait (trait : Trait)
  deriving DecidableEq, Repr

def Property.codes : Property → CodeTable
  | .category kind => kind.codes
  | .script name => ((scripts.find? fun known => known.name == name).map Script.codes).getD #[]
  | .trait kind => kind.codes

end Lexicon.Text
