import Lexicon.Vocabulary.Basic

/-! The vocabulary of the language. -/

set_option autoImplicit false

namespace Lexicon.Vocabulary

/-- What brackets list as white space, the byte order mark included and the next line control
not. -/
def blankItems : String :=
  "\\t\\n\\x0B\\x0C\\r \\x{A0}\\x{1680}\\x{2000}-\\x{200A}" ++
  "\\x{2028}\\x{2029}\\x{202F}\\x{205F}\\x{3000}\\x{FEFF}"

/-- Every pattern of several characters stands before those that match its beginning. -/
def standardEntries : List Entry := [
  ⟨.token .identifier, "[a-zA-Z_][a-zA-Z_0-9]*"⟩,
  ⟨.token .beDefinedAs, ":="⟩,
  ⟨.token .leftParentheses, "\\("⟩,
  ⟨.token .rightParentheses, "\\)"⟩,
  ⟨.token .leftBracket, "\\["⟩,
  ⟨.token .rightBracket, "\\]"⟩,
  ⟨.token .number, "[0-9]+(?:\\.[0-9]+)?"⟩,
  ⟨.token .thinArrow, "->"⟩,
  ⟨.token .numericNegation, "-"⟩,
  ⟨.token .notEquals, "!="⟩,
  ⟨.token .logicalNegation, "!"⟩,
  ⟨.token .exponentiation, "\\*\\*"⟩,
  ⟨.token .multipliedBy, "\\*"⟩,
  ⟨.token .dividedBy, "/"⟩,
  ⟨.token .modulus, "%"⟩,
  ⟨.token .plus, "\\+"⟩,
  ⟨.token .greaterThanEquals, ">="⟩,
  ⟨.token .greaterThan, ">"⟩,
  ⟨.token .lessThanEquals, "<="⟩,
  ⟨.token .lessThan, "<"⟩,
  ⟨.token .equals, "="⟩,
  ⟨.token .string, "\"(?:\\\\\"|[^\"])*\""⟩,
  ⟨.token .comma, ","⟩,
  ⟨.token .colon, ":"⟩,
  ⟨.token .dot, "\\."⟩,
  ⟨.whitespace, "[" ++ blankItems ++ "]+"⟩,
  ⟨.anythingElse, "[^" ++ blankItems ++ "]+"⟩]

def standardKeywords : List Keyword := [
  ⟨.numberType, "Number"⟩,
  ⟨.booleanType, "Boolean"⟩,
  ⟨.stringType, "String"⟩,
  ⟨.arrayType, "Array"⟩,
  ⟨.functionType, "Function"⟩,
  ⟨.letKeyword, "Let"⟩,
  ⟨.trueKeyword, "True"⟩,
  ⟨.falseKeyword, "False"⟩,
  ⟨.andKeyword, "And"⟩,
  ⟨.orKeyword, "Or"⟩,
  ⟨.ifKeyword, "If"⟩,
  ⟨.thenKeyword, "Then"⟩,
  ⟨.elseKeyword, "Else"⟩,
  ⟨.endKeyword, "End"⟩]

def standard : Except Failure Vocabulary := ofTables standardEntries standardKeywords

end Lexicon.Vocabulary

namespace Lexicon

def Kind.isKeyword (kind : Kind) : Bool :=
  Vocabulary.standardKeywords.any fun keyword => keyword.kind == kind

end Lexicon
