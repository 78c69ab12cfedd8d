/-! Token kinds of the language, and the roles that patterns play in a scan. -/

set_option autoImplicit false

namespace Lexicon

inductive Kind where
  | identifier
  | number
  | string
  | beDefinedAs
  | thinArrow
  | colon
  | comma
  | dot
  | leftParentheses
  | rightParentheses
  | leftBracket
  | rightBracket
  | numericNegation
  | logicalNegation
  | exponentiation
  | multipliedBy
  | dividedBy
  | modulus
  | plus
  | greaterThan
  | greaterThanEquals
  | lessThan
  | lessThanEquals
  | equals
  | notEquals
  | numberType
  | booleanType
  | stringType
  | arrayType
  | functionType
  | letKeyword
  | trueKeyword
  | falseKeyword
  | andKeyword
  | orKeyword
  | ifKeyword
  | thenKeyword
  | elseKeyword
  | endKeyword
  deriving DecidableEq, Repr

namespace Kind

def all : List Kind := [
  .identifier, .number, .string, .beDefinedAs, .thinArrow, .colon, .comma, .dot,
  .leftParentheses, .rightParentheses, .leftBracket, .rightBracket, .numericNegation,
  .logicalNegation, .exponentiation, .multipliedBy, .dividedBy, .modulus, .plus, .greaterThan,
  .greaterThanEquals, .lessThan, .lessThanEquals, .equals, .notEquals, .numberType,
  .booleanType, .stringType, .arrayType, .functionType, .letKeyword, .trueKeyword,
  .falseKeyword, .andKeyword, .orKeyword, .ifKeyword, .thenKeyword, .elseKeyword, .endKeyword]

def name : Kind → String
  | .identifier => "IDENTIFIER"
  | .number => "NUMBER"
  | .string => "STRING"
  | .beDefinedAs => "BE_DEFINED_AS"
  | .thinArrow => "THIN_ARROW"
  | .colon => "COLON"
  | .comma => "COMMA"
  | .dot => "DOT"
  | .leftParentheses => "LEFT_PARENTHESES"
  | .rightParentheses => "RIGHT_PARENTHESES"
  | .leftBracket => "LEFT_BRACKET"
  | .rightBracket => "RIGHT_BRACKET"
  | .numericNegation => "NUMERIC_NEGATION"
  | .logicalNegation => "LOGICAL_NEGATION"
  | .exponentiation => "EXPONENTIATION"
  | .multipliedBy => "MULTIPLIED_BY"
  | .dividedBy => "DIVIDED_BY"
  | .modulus => "MODULUS"
  | .plus => "PLUS"
  | .greaterThan => "GREATER_THAN"
  | .greaterThanEquals => "GREATER_THAN_EQUALS"
  | .lessThan => "LESS_THAN"
  | .lessThanEquals => "LESS_THAN_EQUALS"
  | .equals => "EQUALS"
  | .notEquals => "NOT_EQUALS"
  | .numberType => "NUMBER_TYPE"
  | .booleanType => "BOOLEAN_TYPE"
  | .stringType => "STRING_TYPE"
  | .arrayType => "ARRAY_TYPE"
  | .functionType => "FUNCTION_TYPE"
  | .letKeyword => "LET"
  | .trueKeyword => "TRUE"
  | .falseKeyword => "FALSE"
  | .andKeyword => "AND"
  | .orKeyword => "OR"
  | .ifKeyword => "IF"
  | .thenKeyword => "THEN"
  | .elseKeyword => "ELSE"
  | .endKeyword => "END"

def isTypeKeyword : Kind → Bool
  | .numberType | .booleanType | .stringType | .arrayType | .functionType => true
  | _ => false

def ofName? (name : String) : Option Kind := all.find? (·.name == name)

theorem ofName?_name (kind : Kind) : ofName? kind.name = some kind := by
  cases kind <;> rfl

theorem name_injective {left right : Kind} (same : left.name = right.name) : left = right := by
  have names := congrArg ofName? same
  rw [ofName?_name, ofName?_name] at names
  exact Option.some.inj names

end Kind

/-- What a match of a pattern is taken for: a token, or one of the two that yield none. -/
inductive Role where
  | token (kind : Kind)
  | whitespace
  | anythingElse
  deriving DecidableEq, Repr

namespace Role

def name : Role → String
  | .token kind => kind.name
  | .whitespace => "WHITESPACE"
  | .anythingElse => "ANYTHING_ELSE"

def ofName? (name : String) : Option Role :=
  match Kind.ofName? name with
  | some kind => some (.token kind)
  | none =>
      if name = whitespace.name then some .whitespace
      else if name = anythingElse.name then some .anythingElse
      else none

theorem ofName?_name (role : Role) : ofName? role.name = some role := by
  cases role with
  | token kind => simp [ofName?, name, Kind.ofName?_name]
  | whitespace => rfl
  | anythingElse => rfl

theorem name_injective {left right : Role} (same : left.name = right.name) : left = right := by
  have names := congrArg ofName? same
  rw [ofName?_name, ofName?_name] at names
  exact Option.some.inj names

end Role

end Lexicon
