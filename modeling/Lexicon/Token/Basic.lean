import Lexicon.Token.Kind

/-! Tokens and the line each of them has in a listing. -/

set_option autoImplicit false

namespace Lexicon

/-- `line` is the line on which the lexeme starts, from one. -/
structure Token where
  kind : Kind
  lexeme : String
  line : Nat
  deriving DecidableEq, Repr

/-- The lexeme stands last and is not escaped; it may have several lines. -/
def Token.display (token : Token) : String :=
  toString token.line ++ " " ++ token.kind.name ++ " " ++ token.lexeme

end Lexicon
