import Lexicon.Pattern.CharSet

/-! The names of character properties, as in `\p{Greek}`.

A name alone is that of a trait, of a general category, of a group of categories, or of a
script. Behind `gc` or `sc` and a colon or an equals sign it is that of a category or of a script.
-/

set_option autoImplicit false

namespace Lexicon

open Text (Category Trait)

namespace CharSet

def anyOf : List CharSet → CharSet
  | [] => none
  | [only] => only
  | first :: rest => union first (anyOf rest)

def ofCategories (categories : List Category) : CharSet :=
  anyOf (categories.map fun category => listed (.category category))

def ofTrait (trait : Trait) : CharSet := listed (.trait trait)

end CharSet

namespace PropertyName

abbrev Naming := List (List String × CharSet)

/-! ### General categories -/

def categories : List (List String × Category) := [
  (["Uppercase_Letter", "Lu"], .uppercaseLetter),
  (["Lowercase_Letter", "Ll"], .lowercaseLetter),
  (["Titlecase_Letter", "Lt"], .titlecaseLetter),
  (["Modifier_Letter", "Lm"], .modifierLetter),
  (["Other_Letter", "Lo"], .otherLetter),
  (["Nonspacing_Mark", "Mn"], .nonspacingMark),
  (["Spacing_Mark", "Mc"], .spacingMark),
  (["Enclosing_Mark", "Me"], .enclosingMark),
  (["Decimal_Number", "Nd", "digit"], .decimalNumber),
  (["Letter_Number", "Nl"], .letterNumber),
  (["Other_Number", "No"], .otherNumber),
  (["Connector_Punctuation", "Pc"], .connectorPunctuation),
  (["Dash_Punctuation", "Pd"], .dashPunctuation),
  (["Open_Punctuation", "Ps"], .openPunctuation),
  (["Close_Punctuation", "Pe"], .closePunctuation),
  (["Initial_Punctuation", "Pi"], .initialPunctuation),
  (["Final_Punctuation", "Pf"], .finalPunctuation),
  (["Other_Punctuation", "Po"], .otherPunctuation),
  (["Math_Symbol", "Sm"], .mathSymbol),
  (["Currency_Symbol", "Sc"], .currencySymbol),
  (["Modifier_Symbol", "Sk"], .modifierSymbol),
  (["Other_Symbol", "So"], .otherSymbol),
  (["Space_Separator", "Zs"], .spaceSeparator),
  (["Line_Separator", "Zl"], .lineSeparator),
  (["Paragraph_Separator", "Zp"], .paragraphSeparator),
  (["Control", "Cc", "cntrl"], .control),
  (["Format", "Cf"], .format),
  (["Private_Use", "Co"], .privateUse)]

def casedLetters : List Category := [.uppercaseLetter, .lowercaseLetter, .titlecaseLetter]

def letters : List Category := casedLetters ++ [.modifierLetter, .otherLetter]

def marks : List Category := [.nonspacingMark, .spacingMark, .enclosingMark]

def numbers : List Category := [.decimalNumber, .letterNumber, .otherNumber]

def punctuation : List Category := [
  .connectorPunctuation, .dashPunctuation, .openPunctuation, .closePunctuation,
  .initialPunctuation, .finalPunctuation, .otherPunctuation]

def symbols : List Category := [.mathSymbol, .currencySymbol, .modifierSymbol, .otherSymbol]

def separators : List Category := [.spaceSeparator, .lineSeparator, .paragraphSeparator]

def others : List Category := [.control, .format, .privateUse]

def assigned : CharSet := .ofCategories (categories.map Prod.snd)

def unassigned : CharSet := .compl assigned

def categoryGroups : Naming := [
  (["Cased_Letter", "LC"], .ofCategories casedLetters),
  (["Letter", "L"], .ofCategories letters),
  (["Mark", "M", "Combining_Mark"], .ofCategories marks),
  (["Number", "N"], .ofCategories numbers),
  (["Punctuation", "P", "punct"], .ofCategories punctuation),
  (["Symbol", "S"], .ofCategories symbols),
  (["Separator", "Z"], .ofCategories separators),
  (["Other", "C"], .union (.ofCategories others) unassigned),
  (["Unassigned", "Cn"], unassigned),
  (["Assigned"], assigned),
  (["Any"], .all),
  (["ASCII"], .ascii)]

def generalCategories : Naming :=
  categories.map (fun (names, category) => (names, .ofCategories [category])) ++ categoryGroups

/-! ### Scripts -/

def scripts : Naming :=
  Text.scripts.map fun script => (script.name :: script.aliases, .listed (.script script.name))

/-! ### Traits -/

def uppercase : CharSet := .union (.ofCategories [.uppercaseLetter]) (.ofTrait .otherUppercase)

def lowercase : CharSet := .union (.ofCategories [.lowercaseLetter]) (.ofTrait .otherLowercase)

def alphabetic : CharSet :=
  .anyOf [.ofCategories (letters ++ [.letterNumber]), .ofTrait .otherUppercase,
    .ofTrait .otherLowercase, .ofTrait .otherAlphabetic]

/-- What names can start with. The vertical tilde is a letter that cannot. -/
def idStart : CharSet :=
  .diff (.union (.ofCategories (letters ++ [.letterNumber])) (.ofTrait .otherIdStart))
    (.single '\u2E2F')

def idContinue : CharSet :=
  .anyOf [idStart, .ofTrait .otherIdContinue,
    .ofCategories [.nonspacingMark, .spacingMark, .decimalNumber, .connectorPunctuation]]

def graphemeExtend : CharSet :=
  .union (.ofCategories [.nonspacingMark, .enclosingMark]) (.ofTrait .otherGraphemeExtend)

def graphemeBase : CharSet :=
  .diff
    (.ofCategories (letters ++ marks ++ numbers ++ punctuation ++ symbols ++ [.spaceSeparator]))
    graphemeExtend

def traits : Naming := [
  (["Uppercase", "Upper"], uppercase),
  (["Lowercase", "Lower"], lowercase),
  (["Cased"], .anyOf [uppercase, lowercase, .ofCategories [.titlecaseLetter]]),
  (["Alphabetic", "Alpha"], alphabetic),
  (["White_Space", "WSpace", "space"], .named .space),
  (["ID_Start", "IDS"], idStart),
  (["ID_Continue", "IDC"], idContinue),
  (["XID_Start", "XIDS"], .diff idStart (.ofTrait .unstableIdStart)),
  (["XID_Continue", "XIDC"], .diff idContinue (.ofTrait .unstableIdContinue)),
  (["Math"], .union (.ofCategories [.mathSymbol]) (.ofTrait .otherMath)),
  (["Dash"], .union (.ofCategories [.dashPunctuation]) (.ofTrait .otherDash)),
  (["Grapheme_Extend", "Gr_Ext"], graphemeExtend),
  (["Grapheme_Base", "Gr_Base"], graphemeBase),
  (["Emoji"], .union (.ofTrait .emojiPresentation) (.ofTrait .textEmoji)),
  (["Emoji_Presentation", "EPres"], .ofTrait .emojiPresentation),
  (["Emoji_Modifier", "EMod"], .ofTrait .emojiModifier),
  (["Extended_Pictographic", "ExtPict"], .ofTrait .extendedPictographic),
  (["Regional_Indicator", "RI"], .ofTrait .regionalIndicator),
  (["ASCII_Hex_Digit", "AHex"], .ofTrait .asciiHexDigit),
  (["Hex_Digit", "Hex"], .ofTrait .hexDigit),
  (["Ideographic", "Ideo"], .ofTrait .ideographic),
  (["Join_Control", "Join_C"], .ofTrait .joinControl),
  (["Quotation_Mark", "QMark"], .ofTrait .quotationMark),
  (["Default_Ignorable_Code_Point", "DI"], .ofTrait .defaultIgnorable),
  (["Noncharacter_Code_Point", "NChar"], .ofTrait .noncharacter)]

/-! ### Looking names up -/

/-- What counts in a name: not its blanks, underscores and hyphens, not its case, not a
leading "is", and nothing that is not ASCII. -/
def loose (name : List Char) : List Char :=
  let lower := name.map Char.toLower
  let counts (c : Char) : Bool := c.toNat < 0x80 && c != ' ' && c != '_' && c != '-'
  match lower with
  | 'i' :: 's' :: rest =>
      match rest.filter counts with
      -- This is the name of comments on characters, and not that of a category.
      | ['c'] => ['i', 's', 'c']
      | rest => rest
  | name => name.filter counts

def lookUp? (naming : Naming) (name : List Char) : Option CharSet :=
  (naming.find? fun (names, _) => names.any fun known => loose known.toList == loose name).map
    Prod.snd

def splitAt? (mark text : List Char) : Option (List Char × List Char) :=
  if mark.isPrefixOf text then some ([], text.drop mark.length)
  else
    match text with
    | [] => none
    | c :: rest => (splitAt? mark rest).map fun (left, right) => (c :: left, right)

def namingOf? (kind : List Char) : Option Naming :=
  let named (names : List String) : Bool := names.any fun name => loose name.toList == loose kind
  if named ["General_Category", "gc"] then some generalCategories
  else if named ["Script", "sc"] then some scripts
  else none

/-- The characters that have a property. The signs between the kind of a property and its name
all mean the same. -/
def members? (name : List Char) : Option CharSet :=
  let parts :=
    [['!', '='], [':'], ['=']].findSome? fun mark => splitAt? mark name
  match parts with
  | some (kind, name) => (namingOf? kind).bind fun naming => lookUp? naming name
  | none => lookUp? (traits ++ generalCategories ++ scripts) name

end PropertyName

end Lexicon
